import ClientForge.Client.Project
import ClientForge.Proofs.Client.Lines
import ClientForge.Proofs.Json.Spread
import ClientForge.Proofs.Words

/-!
The manifests of JavaScript and PHP projects. Each is a JSON document, whatever texts the plan of the client has
(`Client.Node.read_manifestFile`, `Client.Php.read_manifestFile`). Its name is made from the slug of the title, which
is never empty (`isSlug_slug`), and the title is in its description as it stands.
-/

namespace ClientForge

/-! ## Slugs -/

/-- Small letters and digits, in one or more groups with a hyphen between them. -/
def IsSlug (s : List Char) : Prop :=
  ∀ group ∈ Text.splitAt '-' s, group ≠ [] ∧ ∀ c ∈ group, c.isLower ∨ c.isDigit

theorem wordsOk_runs (s : List Char) : WordsOk (runs s) := by
  induction s with
  | nil => simp [runs, WordsOk]
  | cons c s ih =>
    unfold runs
    split
    · rename_i hc
      split
      · exact wordsOk_attach hc ih
      · exact ih.cons (List.cons_ne_nil c []) (allAlphanum_cons.2 ⟨hc, allAlphanum_nil⟩)
    · exact ih

theorem isLower_or_isDigit_toLower {c : Char} (h : c.isAlphanum) : c.toLower.isLower ∨ c.toLower.isDigit := by
  rw [← isAlphanum_toLower, isAlphanum_iff, isAlpha_iff, isUpper_toLower] at h
  simpa using h

theorem isSlug_join {groups : List (List Char)} (hne : groups ≠ []) (h : WordsOk groups) :
    IsSlug (Text.join ['-'] (groups.map lowerWord)) := by
  have hword : ∀ g ∈ groups.map lowerWord, g ≠ [] ∧ ∀ c ∈ g, c.isLower ∨ c.isDigit := by
    intro g hg
    obtain ⟨w, hw, rfl⟩ := List.mem_map.1 hg
    refine ⟨by simpa [lowerWord] using (h w hw).1, fun c hc => ?_⟩
    obtain ⟨d, hd, rfl⟩ := List.mem_map.1 hc
    exact isLower_or_isDigit_toLower ((h w hw).2 d hd)
  have hhyphen : ∀ g ∈ groups.map lowerWord, '-' ∉ g := fun g hg hc =>
    absurd ((hword g hg).2 '-' hc) (by decide)
  unfold IsSlug
  rw [splitAt_join (by simpa using hne) hhyphen]
  exact hword

/-- A title has a slug, whatever it is made of. -/
theorem isSlug_slug (title : List Char) : IsSlug (slug title "api".toList) := by
  have hok := wordsOk_runs title
  unfold slug
  split
  · exact isSlug_join (List.cons_ne_nil _ _) (wordsOk_runs "api".toList)
  · rename_i groups hne
    exact isSlug_join hne hok

/-! ## Manifests -/

theorem lineChars_cons (l : String) (ls : List String) : lineChars (l :: ls) = l.toList ++ '\n' :: lineChars ls := by
  simp [lineChars]

namespace Client.Node

/-- What the manifest says. -/
def manifest (p : ClientPlan) : Json := .object [
  ("name", .text (p.slug ++ "-integration")),
  ("version", .text "1.0.0"),
  ("description", .text ("Generated integration client for " ++ p.title)),
  ("main", .text "src/ApiClient.js"),
  ("scripts", .object [("start", .text "node examples/basic-usage.js"), ("test", .text "jest")]),
  ("dependencies", .object [("axios", .text "^1.6.0"), ("dotenv", .text "^16.3.1")]),
  ("devDependencies", .object [("jest", .text "^29.7.0")])]

set_option maxRecDepth 2000 in
theorem toList_manifestFile (p : ClientPlan) :
    (manifestFile p).text.toList = Json.spread 2 0 (manifest p) ++ ['\n'] := by
  rw [Artifact.toList_text]
  unfold manifestFile manifest
  simp only [lineChars_cons, Json.spread, Json.spreadMembers, Json.write, Json.literal, String.toList_append,
    String.toList_ofList, String.reduceToList, List.append_assoc, List.cons_append, List.nil_append]
  -- The literals of slug and title are all that is not fixed in the two texts.
  generalize Json.encode (p.slug.toList ++ _) = name
  generalize Json.encode (_ ++ p.title.toList) = description
  rfl

/-- The manifest is a JSON document. -/
theorem read_manifestFile (p : ClientPlan) : Json.read (manifestFile p).text = .ok (manifest p) :=
  Json.read_spread_object 2 (toList_manifestFile p) fun _ => rfl

end Client.Node

namespace Client.Php

/-- What the manifest says. -/
def manifest (p : ClientPlan) : Json := .object [
  ("name", .text ("example/" ++ p.slug ++ "-integration")),
  ("description", .text ("Generated integration client for " ++ p.title)),
  ("type", .text "library"),
  ("require", .object [
    ("php", .text ">=7.4"), ("guzzlehttp/guzzle", .text "^7.8"), ("vlucas/phpdotenv", .text "^5.6")]),
  ("require-dev", .object [("phpunit/phpunit", .text "^9.6")]),
  ("autoload", .object [("psr-4", .object [("ApiClient\\", .text "src/")])]),
  ("autoload-dev", .object [("psr-4", .object [("ApiClient\\Tests\\", .text "tests/")])]),
  ("scripts", .object [("test", .text "phpunit tests")])]

set_option maxRecDepth 2000 in
theorem toList_manifestFile (p : ClientPlan) :
    (manifestFile p).text.toList = Json.spread 4 0 (manifest p) ++ ['\n'] := by
  rw [Artifact.toList_text]
  unfold manifestFile manifest
  simp only [lineChars_cons, Json.spread, Json.spreadMembers, Json.write, Json.literal, String.toList_append,
    String.toList_ofList, String.reduceToList, List.append_assoc, List.cons_append, List.nil_append]
  generalize Json.encode (_ ++ (p.slug.toList ++ _)) = name
  generalize Json.encode (_ ++ p.title.toList) = description
  rfl

/-- The manifest is a JSON document. -/
theorem read_manifestFile (p : ClientPlan) : Json.read (manifestFile p).text = .ok (manifest p) :=
  Json.read_spread_object 4 (toList_manifestFile p) fun _ => rfl

end Client.Php

/-! ## Manifests of generated projects -/

/-- The text of the file of a project that has a path. -/
def Target.fileText? (t : Target) (api : Api) (path : String) : Option String :=
  ((t.generate api).find? (·.path == path)).map Artifact.text

/-- Is the text a JSON object with this name and description? -/
def IsManifest (text name description : String) : Prop :=
  ∃ ms, Json.read text = .ok (.object ms) ∧ ms.lookup "name" = some (.text name) ∧
    ms.lookup "description" = some (.text description)

/-- The title of a client is that of the API, with a word in place of an empty one. -/
theorem title_ofApi (t : Target) (api : Api) :
    (ClientPlan.ofApi t api).title = if api.title = "" then "API" else api.title := by
  show firstFilled [api.title] "API" = _
  by_cases h : api.title = "" <;> simp [firstFilled, h]

/-- Clients in JavaScript and in PHP have a manifest that is a JSON document, named after the slug of the title and
described with the title of the client, whatever the title is. -/
theorem manifests_generate (api : Api) : ∃ slug title : String,
    (∀ t, (ClientPlan.ofApi t api).slug = slug ∧ (ClientPlan.ofApi t api).title = title) ∧
      title = (if api.title = "" then "API" else api.title) ∧ IsSlug slug.toList ∧
      (∃ text, Target.node.fileText? api "package.json" = some text ∧
        IsManifest text (slug ++ "-integration") ("Generated integration client for " ++ title)) ∧
      ∃ text, Target.php.fileText? api "composer.json" = some text ∧
        IsManifest text ("example/" ++ slug ++ "-integration") ("Generated integration client for " ++ title) := by
  have hslug : IsSlug (ClientPlan.ofApi .node api).slug.toList := by
    show IsSlug (String.ofList (slug api.title.toList "api".toList)).toList
    rw [String.toList_ofList]
    exact isSlug_slug api.title.toList
  refine ⟨_, _, fun t => ⟨rfl, rfl⟩, title_ofApi .node api, hslug, ⟨_, rfl, ?_⟩, ⟨_, rfl, ?_⟩⟩
  · exact ⟨_, Client.Node.read_manifestFile _, rfl, rfl⟩
  · exact ⟨_, Client.Php.read_manifestFile _, rfl, rfl⟩

end ClientForge
