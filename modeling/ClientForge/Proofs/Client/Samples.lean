import ClientForge.Client.Project

/-!
What shows of a plan in a generated client. A call in a test or in an example of usage passes samples for
the arguments in the path only, and nothing else in a client shows samples. No file shows the version of an
API, the type of an argument, or what carries the credentials of a scheme other than a key. So the files of a
plan are those of the plan without all that (`Target.files_bare`).
-/

namespace ClientForge

/-! ## Plans without what no file shows -/

/-- The argument without its type, and without its sample unless calls pass it. -/
def Argument.bare (a : Argument) : Argument :=
  { a with type := "string", sample := if a.place = .path then a.sample else "" }

def Payload.bare (b : Payload) : Payload := { b with argument := b.argument.bare }

def MethodPlan.bare (m : MethodPlan) : MethodPlan :=
  { m with
    pathArgs := m.pathArgs.map Argument.bare
    queryArgs := m.queryArgs.map Argument.bare
    body := m.body.map Payload.bare }

/-- The scheme with the header of a key, and no other name. -/
def Scheme.bare : Scheme → Scheme
  | none => none
  | bearer _ => bearer ""
  | apiKey name _ => apiKey name .header
  | basic _ => basic ""
  | oauth2 _ => oauth2 ""

def ClientPlan.bare (p : ClientPlan) : ClientPlan :=
  { p with version := "", scheme := p.scheme.bare, methods := p.methods.map MethodPlan.bare }

@[simp] theorem Argument.call_bare (t : Target) (a : Argument) : a.bare.call t = a.call t := by
  unfold call bare
  cases a.place <;> rfl

/-! ## Methods -/

namespace MethodPlan

variable {β : Type}

theorem map_pathArgs_bare {f : Argument → β} (h : ∀ a : Argument, f a.bare = f a) (m : MethodPlan) :
    m.bare.pathArgs.map f = m.pathArgs.map f := by
  show (m.pathArgs.map Argument.bare).map f = _
  rw [List.map_map]
  exact List.map_congr_left fun a _ => h a

theorem map_queryArgs_bare {f : Argument → β} (h : ∀ a : Argument, f a.bare = f a) (m : MethodPlan) :
    m.bare.queryArgs.map f = m.queryArgs.map f := by
  show (m.queryArgs.map Argument.bare).map f = _
  rw [List.map_map]
  exact List.map_congr_left fun a _ => h a

theorem flatMap_queryArgs_bare {f : Argument → List β} (h : ∀ a : Argument, f a.bare = f a) (m : MethodPlan) :
    m.bare.queryArgs.flatMap f = m.queryArgs.flatMap f := by
  rw [List.flatMap_def, List.flatMap_def, map_queryArgs_bare h]

theorem isEmpty_queryArgs_bare (m : MethodPlan) : m.bare.queryArgs.isEmpty = m.queryArgs.isEmpty := by
  cases h : m.queryArgs <;> simp [bare, h]

theorem arguments_bare (m : MethodPlan) : m.bare.arguments = m.arguments.map Argument.bare := by
  unfold arguments bare
  cases m.body <;> simp [Payload.bare]

theorem map_arguments_bare {f : Argument → β} (h : ∀ a : Argument, f a.bare = f a) (m : MethodPlan) :
    m.bare.arguments.map f = m.arguments.map f := by
  rw [arguments_bare, List.map_map]
  exact List.map_congr_left fun a _ => h a

@[simp] theorem call_bare (t : Target) (m : MethodPlan) : m.bare.call t = m.call t := by
  have hargs : m.bare.exampleArgs t = m.exampleArgs t := by
    unfold exampleArgs
    split
    · exact map_pathArgs_bare (Argument.call_bare t) m
    · exact map_arguments_bare (Argument.call_bare t) m
  unfold call
  rw [hargs]
  rfl

end MethodPlan

/-! ## Files -/

theorem Environment.file_bare (p : ClientPlan) : file p.bare = file p := by
  show file { p with version := "", scheme := p.scheme.bare, methods := _ } = _
  unfold file
  cases p.scheme <;> rfl

namespace ClientPlan

variable {β : Type}

theorem flatMap_methods_bare {f : MethodPlan → List β} (h : ∀ m : MethodPlan, f m.bare = f m) (p : ClientPlan) :
    p.bare.methods.flatMap f = p.methods.flatMap f := by
  show (p.methods.map MethodPlan.bare).flatMap f = _
  rw [List.flatMap_map]
  simp only [h]

theorem flatMap_shown_bare {f : MethodPlan × Nat → List β} (h : ∀ m n, f (MethodPlan.bare m, n) = f (m, n))
    (p : ClientPlan) : p.bare.shown.flatMap f = p.shown.flatMap f := by
  have hshown : p.bare.shown = p.shown.map (Prod.map MethodPlan.bare id) := by
    show ((p.methods.map MethodPlan.bare).take 2).zipIdx 1 = _
    rw [← List.map_take, List.zipIdx_map]
    rfl
  rw [hshown, List.flatMap_map]
  simp only [Prod.map, id, h]

theorem isEmpty_methods_bare (p : ClientPlan) : p.bare.methods.isEmpty = p.methods.isEmpty := by
  cases h : p.methods <;> simp [bare, h]

end ClientPlan

namespace Client.Python

theorem method_bare (m : MethodPlan) : method m.bare = method m := by
  have hsignature : signature m.bare = signature m := by
    unfold signature
    rw [MethodPlan.map_arguments_bare (f := parameter) fun _ => rfl]
    rfl
  have hquery : queryLines m.bare = queryLines m := by
    unfold queryLines
    rw [MethodPlan.isEmpty_queryArgs_bare,
      MethodPlan.map_queryArgs_bare (f := queryEntry) fun _ => rfl]
  have hpath : pathLines m.bare = pathLines m := congrArg (_ :: ·) (m.map_pathArgs_bare fun _ => rfl)
  have hsend : sendLines m.bare = sendLines m := by
    have hbody : m.bare.body = m.body.map Payload.bare := rfl
    unfold sendLines
    rw [hbody]
    cases m.body <;> rfl
  unfold method
  rw [hsignature, hpath, hquery, hsend]
  rfl

theorem methodTest_bare (m : MethodPlan) : methodTest m.bare = methodTest m := by
  unfold methodTest
  rw [MethodPlan.call_bare]
  rfl

theorem methodUsage_bare (m : MethodPlan) : methodUsage m.bare = methodUsage m := by
  unfold methodUsage
  rw [MethodPlan.call_bare]
  rfl

theorem sendsJson_bare (p : ClientPlan) : sendsJson p.bare = sendsJson p := by
  have hencoding : ∀ m : MethodPlan, m.bare.body.map (·.encoding) = m.body.map (·.encoding) :=
    fun m => Option.map_map ..
  show (p.methods.map MethodPlan.bare).any _ = _
  rw [List.any_map]
  simp only [Function.comp_def, hencoding]
  rfl

theorem files_bare (p : ClientPlan) : files p.bare = files p := by
  have hclient : clientFile p.bare = clientFile p := by
    unfold clientFile opening
    rw [ClientPlan.flatMap_methods_bare method_bare, sendsJson_bare]
    rfl
  have htest : testFile p.bare = testFile p := by
    unfold testFile
    rw [ClientPlan.flatMap_methods_bare methodTest_bare]
  have husage : usageFile p.bare = usageFile p := by
    unfold usageFile
    rw [ClientPlan.flatMap_shown_bare fun m _ => methodUsage_bare m]
    rfl
  unfold files
  rw [hclient, htest, husage, Environment.file_bare]
  rfl

end Client.Python

namespace Client.Node

theorem method_bare (m : MethodPlan) : method m.bare = method m := by
  have hdocumentation : documentation m.bare = documentation m := by
    unfold documentation
    rw [MethodPlan.map_arguments_bare (f := argumentLine) fun _ => rfl]
    rfl
  have hsignature : signature m.bare = signature m := by
    unfold signature
    rw [MethodPlan.map_arguments_bare (f := Argument.ident) fun _ => rfl]
    rfl
  have hquery : queryLines m.bare = queryLines m := by
    unfold queryLines
    rw [MethodPlan.isEmpty_queryArgs_bare,
      MethodPlan.flatMap_queryArgs_bare (f := queryArgLines) fun _ => rfl]
  have hpath : pathLines m.bare = pathLines m := congrArg (_ :: ·) (m.map_pathArgs_bare fun _ => rfl)
  have hsend : sendLines m.bare = sendLines m := by
    have hbody : m.bare.body = m.body.map Payload.bare := rfl
    unfold sendLines
    rw [hbody]
    cases m.body <;> rfl
  unfold method
  rw [hdocumentation, hsignature, hpath, hquery, hsend]

theorem methodTest_bare (m : MethodPlan) : methodTest m.bare = methodTest m := by
  unfold methodTest
  rw [MethodPlan.call_bare]
  rfl

theorem methodUsage_bare (m : MethodPlan) (n : Nat) : methodUsage m.bare n = methodUsage m n := by
  simp only [methodUsage, MethodPlan.call_bare]
  rfl

theorem files_bare (p : ClientPlan) : files p.bare = files p := by
  have hclient : clientFile p.bare = clientFile p := by
    unfold clientFile
    rw [ClientPlan.flatMap_methods_bare method_bare]
    rfl
  have htest : testFile p.bare = testFile p := by
    unfold testFile
    rw [ClientPlan.flatMap_methods_bare methodTest_bare]
  have husage : usageFile p.bare = usageFile p := by
    unfold usageFile
    rw [ClientPlan.flatMap_shown_bare methodUsage_bare]
  unfold files
  rw [hclient, htest, husage, Environment.file_bare]
  rfl

end Client.Node

namespace Client.Go

theorem method_bare (m : MethodPlan) : method m.bare = method m := by
  have hsignature : signature m.bare = signature m := by
    unfold signature
    rw [MethodPlan.map_arguments_bare (f := parameter) fun _ => rfl]
    rfl
  have hquery : queryLines m.bare = queryLines m := by
    unfold queryLines
    rw [MethodPlan.isEmpty_queryArgs_bare,
      MethodPlan.map_queryArgs_bare (f := queryEntry) fun _ => rfl]
  have hpath : pathLines m.bare = pathLines m := congrArg (_ :: ·) (m.map_pathArgs_bare fun _ => rfl)
  have hsend : sendLines m.bare = sendLines m := by
    have hbody : m.bare.body = m.body.map Payload.bare := rfl
    unfold sendLines
    rw [hbody]
    cases m.body <;> rfl
  unfold method
  rw [hsignature, hpath, hquery, hsend]
  rfl

theorem methodTest_bare (m : MethodPlan) : methodTest m.bare = methodTest m := by
  unfold methodTest
  rw [MethodPlan.call_bare]
  rfl

theorem methodUsage_bare (m : MethodPlan) (n : Nat) : methodUsage m.bare n = methodUsage m n := by
  simp only [methodUsage, MethodPlan.call_bare]
  rfl

theorem files_bare (p : ClientPlan) : files p.bare = files p := by
  have hclient : clientFile p.bare = clientFile p := by
    unfold clientFile
    rw [ClientPlan.flatMap_methods_bare method_bare]
    rfl
  have htest : testFile p.bare = testFile p := by
    unfold testFile
    rw [ClientPlan.flatMap_methods_bare methodTest_bare]
  have husage : usageFile p.bare = usageFile p := by
    unfold usageFile
    rw [ClientPlan.flatMap_shown_bare methodUsage_bare]
    rfl
  unfold files
  rw [hclient, htest, husage, Environment.file_bare]
  rfl

end Client.Go

namespace Client.Java

theorem method_bare (m : MethodPlan) : method m.bare = method m := by
  have hsignature : signature m.bare = signature m := by
    unfold signature
    rw [MethodPlan.map_arguments_bare (f := parameter) fun _ => rfl]
    rfl
  have hquery : queryLines m.bare = queryLines m := by
    unfold queryLines
    rw [MethodPlan.isEmpty_queryArgs_bare,
      MethodPlan.map_queryArgs_bare (f := queryEntry) fun _ => rfl]
  have hpath : pathLines m.bare = pathLines m := congrArg (_ :: ·) (m.map_pathArgs_bare fun _ => rfl)
  have hsend : sendLines m.bare = sendLines m := by
    have hbody : m.bare.body = m.body.map Payload.bare := rfl
    unfold sendLines
    rw [hbody]
    cases m.body <;> rfl
  unfold method
  rw [hsignature, hpath, hquery, hsend]
  rfl

theorem methodTest_bare (m : MethodPlan) : methodTest m.bare = methodTest m := by
  unfold methodTest
  rw [MethodPlan.call_bare]
  rfl

theorem methodUsage_bare (m : MethodPlan) (n : Nat) : methodUsage m.bare n = methodUsage m n := by
  simp only [methodUsage, MethodPlan.call_bare]
  rfl

theorem files_bare (p : ClientPlan) : files p.bare = files p := by
  have hclient : clientFile p.bare = clientFile p := by
    unfold clientFile
    rw [ClientPlan.flatMap_methods_bare method_bare]
    rfl
  have htest : testFile p.bare = testFile p := by
    unfold testFile
    rw [ClientPlan.flatMap_methods_bare methodTest_bare]
  have husage : usageFile p.bare = usageFile p := by
    unfold usageFile
    rw [ClientPlan.flatMap_shown_bare methodUsage_bare, ClientPlan.isEmpty_methods_bare]
    rfl
  unfold files
  rw [hclient, htest, husage, Environment.file_bare]
  rfl

end Client.Java

namespace Client.Php

theorem method_bare (m : MethodPlan) : method m.bare = method m := by
  have hsignature : signature m.bare = signature m := by
    unfold signature
    rw [MethodPlan.map_arguments_bare (f := parameter) fun _ => rfl]
    rfl
  have hquery : queryLines m.bare = queryLines m := by
    unfold queryLines
    rw [MethodPlan.isEmpty_queryArgs_bare,
      MethodPlan.map_queryArgs_bare (f := queryEntry) fun _ => rfl]
  have hpath : pathLines m.bare = pathLines m := congrArg (_ :: ·) (m.map_pathArgs_bare fun _ => rfl)
  have hsend : sendLines m.bare = sendLines m := by
    have hbody : m.bare.body = m.body.map Payload.bare := rfl
    unfold sendLines
    rw [hbody]
    cases m.body <;> rfl
  unfold method
  rw [hsignature, hpath, hquery, hsend]
  rfl

theorem methodTest_bare (m : MethodPlan) : methodTest m.bare = methodTest m := by
  unfold methodTest
  rw [MethodPlan.call_bare]
  rfl

theorem methodUsage_bare (m : MethodPlan) (n : Nat) : methodUsage m.bare n = methodUsage m n := by
  simp only [methodUsage, MethodPlan.call_bare]
  rfl

theorem files_bare (p : ClientPlan) : files p.bare = files p := by
  have hclient : clientFile p.bare = clientFile p := by
    unfold clientFile
    rw [ClientPlan.flatMap_methods_bare method_bare]
    rfl
  have htest : testFile p.bare = testFile p := by
    unfold testFile
    rw [ClientPlan.flatMap_methods_bare methodTest_bare]
  have husage : usageFile p.bare = usageFile p := by
    unfold usageFile
    rw [ClientPlan.flatMap_shown_bare methodUsage_bare]
  unfold files
  rw [hclient, htest, husage, Environment.file_bare]
  rfl

end Client.Php

/-- The files of a plan show no version, no types, only the header of a key, and only samples that calls
pass. -/
theorem Target.files_bare (t : Target) (p : ClientPlan) : t.files p.bare = t.files p := by
  cases t with
  | node => exact Client.Node.files_bare p
  | python => exact Client.Python.files_bare p
  | go => exact Client.Go.files_bare p
  | java => exact Client.Java.files_bare p
  | php => exact Client.Php.files_bare p

end ClientForge
