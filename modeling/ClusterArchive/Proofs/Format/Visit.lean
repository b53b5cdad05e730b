import ClusterArchive.Proofs.Format
import ClusterArchive.Proofs.Tar.Cut

/-! Showing the files of an archive to a visitor, one after the other as they are read. A file is shown
with all of its bytes or not at all, also where the data ends too early. -/

namespace ClusterArchive.TarGzip

open Tar

variable {σ : Type}

/-- What is made of a file, by its path and bytes. An error ends the visit. -/
abbrev Visitor (σ : Type) := String → Bytes → σ → Except RunError Unit × σ

def visitMembers (visit : Visitor σ) (fault : Option String) :
    List Tar.Member → σ → Except RunError Unit × σ
  | [], s =>
    match fault with
    | some fault => (.error (.archive ("Failed to read archive entry: " ++ fault)), s)
    | none => (.ok (), s)
  | member :: rest, s =>
    if !member.isFile then visitMembers visit fault rest s
    else
      match member.failure with
      | some failure =>
        (.error (.archive ("Failed to read archive entry " ++ member.pathText ++ ": " ++ failure)), s)
      | none =>
        if member.data.length ≠ member.size then
          (.error (.archive ("Archive entry " ++ member.pathText ++ " is truncated: header declares " ++
            toString member.size ++ " bytes, found " ++ toString member.data.length)), s)
        else
          match visit member.pathText member.data s with
          | (.error error, s) => (.error error, s)
          | (.ok (), s) => visitMembers visit fault rest s

def forEachFile (visit : Visitor σ) (input : ByteStream) (s : σ) : Except RunError Unit × σ :=
  let listing := Tar.readMembers (Gzip.decompress input)
  visitMembers visit listing.fault listing.members s

def visitFiles (visit : Visitor σ) (failure : Option RunError) :
    List (String × Bytes) → σ → Except RunError Unit × σ
  | [], s =>
    match failure with
    | some error => (.error error, s)
    | none => (.ok (), s)
  | (path, body) :: rest, s =>
    match visit path body s with
    | (.error error, s) => (.error error, s)
    | (.ok (), s) => visitFiles visit failure rest s

/-- A visitor is shown what is delivered. -/
theorem visitMembers_eq (visit : Visitor σ) (fault : Option String) (members : List Tar.Member) (s : σ) :
    visitMembers visit fault members s =
      visitFiles visit (deliver fault members).failure (deliver fault members).files s := by
  induction members generalizing s with
  | nil => cases fault <;> rfl
  | cons member rest ih =>
    rw [visitMembers, deliver]
    cases member.isFile with
    | false => exact ih s
    | true =>
      cases member.failure with
      | some failure => rfl
      | none =>
        by_cases short : member.data.length ≠ member.size
        · simp only [Bool.not_true, Bool.false_eq_true, if_false, if_pos short]
          rfl
        · simp only [Bool.not_true, Bool.false_eq_true, if_false, if_neg short, visitFiles, ih]

theorem forEachFile_eq (visit : Visitor σ) (input : ByteStream) (s : σ) :
    forEachFile visit input s = visitFiles visit (files input).failure (files input).files s :=
  visitMembers_eq ..

def collecting : Visitor (List RestoreItem) := fun path body items =>
  match RestoreItem.ofFile path body with
  | .error error => (.error error, items)
  | .ok item => (.ok (), items ++ item.toList)

theorem visitFiles_collecting (failure : Option RunError) (files : List (String × Bytes))
    (items : List RestoreItem) :
    (RestoreItem.ofFiles failure files).map (items ++ ·) =
      let (outcome, all) := visitFiles collecting failure files items
      outcome.map fun _ => all := by
  induction files generalizing items with
  | nil => cases failure <;> simp [RestoreItem.ofFiles, visitFiles, Except.map]
  | cons file rest ih =>
    obtain ⟨path, body⟩ := file
    rw [RestoreItem.ofFiles, visitFiles, collecting]
    cases RestoreItem.ofFile path body with
    | error error => rfl
    | ok item =>
      have later := ih (items ++ item.toList)
      simp only [] at later ⊢
      rw [← later]
      cases RestoreItem.ofFiles failure rest <;>
        simp [bind, Except.bind, Except.map, pure, Except.pure]

/-- A restore reads the items of an archive file by file. -/
theorem ofDelivery_eq (input : ByteStream) :
    RestoreItem.ofDelivery (files input) =
      let (outcome, items) := forEachFile collecting input []
      outcome.map fun _ => items := by
  rw [forEachFile_eq, ← visitFiles_collecting, RestoreItem.ofDelivery]
  cases RestoreItem.ofFiles (files input).failure (files input).files <;> rfl

/-! What a visitor is shown. -/

inductive Accepts (visit : Visitor σ) : σ → List (String × Bytes) → σ → Prop
  | nil (s : σ) : Accepts visit s [] s
  | cons {path : String} {body : Bytes} {rest : List (String × Bytes)} {s r t : σ}
      (takes : visit path body s = (.ok (), r)) (later : Accepts visit r rest t) :
      Accepts visit s ((path, body) :: rest) t

/-- A visit of files, with those that were handed to the visitor. It is over with them and ends as
their reading did, or right behind the file that is refused. -/
inductive Visits (visit : Visitor σ) (offered : List (String × Bytes)) (failure : Option RunError)
    (s : σ) : List (String × Bytes) → Except RunError Unit → σ → Prop
  | failed {error : RunError} {t : σ} (reading : failure = some error)
      (accepts : Accepts visit s offered t) : Visits visit offered failure s offered (.error error) t
  | finished {t : σ} (reading : failure = none) (accepts : Accepts visit s offered t) :
      Visits visit offered failure s offered (.ok ()) t
  | refused {accepted : List (String × Bytes)} {path : String} {body : Bytes} {error : RunError}
      {r t : σ} (first : accepted ++ [(path, body)] <+: offered) (accepts : Accepts visit s accepted r)
      (refuses : visit path body r = (.error error, t)) :
      Visits visit offered failure s (accepted ++ [(path, body)]) (.error error) t

def recording (visit : Visitor σ) : Visitor (σ × List (String × Bytes)) := fun path body (s, handed) =>
  let (outcome, s) := visit path body s
  (outcome, s, handed ++ [(path, body)])

variable {visit : Visitor σ} {path : String} {body : Bytes} {offered : List (String × Bytes)}
  {failure : Option RunError} {s : σ}

theorem Visits.cons {r t : σ} {handed : List (String × Bytes)} {outcome : Except RunError Unit}
    (takes : visit path body s = (.ok (), r)) (later : Visits visit offered failure r handed outcome t) :
    Visits visit ((path, body) :: offered) failure s ((path, body) :: handed) outcome t := by
  cases later with
  | failed reading accepts => exact .failed reading (.cons takes accepts)
  | finished reading accepts => exact .finished reading (.cons takes accepts)
  | refused first accepts refuses =>
    exact .refused (List.cons_prefix_cons.mpr ⟨rfl, first⟩) (.cons takes accepts) refuses

theorem visits (visit : Visitor σ) (failure : Option RunError) (offered start : List (String × Bytes))
    (s : σ) : ∃ handed outcome t, visitFiles visit failure offered s = (outcome, t) ∧
      visitFiles (recording visit) failure offered (s, start) = (outcome, t, start ++ handed) ∧
      Visits visit offered failure s handed outcome t := by
  induction offered generalizing s start with
  | nil =>
    cases failure with
    | some error => exact ⟨[], .error error, s, rfl, by simp [visitFiles], .failed rfl (.nil s)⟩
    | none => exact ⟨[], .ok (), s, rfl, by simp [visitFiles], .finished rfl (.nil s)⟩
  | cons file rest ih =>
    obtain ⟨path, body⟩ := file
    rcases answer : visit path body s with ⟨_ | _, r⟩
    next error =>
      have refused : Visits visit ((path, body) :: rest) failure s ([] ++ [(path, body)])
          (.error error) r :=
        .refused (List.cons_prefix_cons.mpr ⟨rfl, List.nil_prefix⟩) (.nil s) answer
      exact ⟨_, _, r, by simp [visitFiles, answer], by simp [visitFiles, recording, answer], refused⟩
    next =>
      obtain ⟨handed, outcome, t, seen, written, visits⟩ := ih (start ++ [(path, body)]) r
      refine ⟨_, outcome, t, ?_, ?_, visits.cons answer⟩
      · simp [visitFiles, answer, seen]
      · simp [visitFiles, recording, answer, written]

end ClusterArchive.TarGzip
