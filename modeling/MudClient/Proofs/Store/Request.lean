import MudClient.Proofs.Settings
import MudClient.Proofs.Store.Disk
import MudClient.Store.Basic
/-! The store as a map from names to files. What a request is answered follows from the requests
before it: the last ones that saved something under its name. A configuration is not written again
if its digest is the one of what was read or written last, so this takes that no two configurations
have one digest. -/
namespace MudClient.Store

/-- A name that a directory can have. -/
def IsPlainName (name : Text) : Prop :=
  name ≠ [] ∧ '/' ∉ name ∧ '\x00' ∉ name ∧ name ≠ ['.'] ∧ name ≠ ['.', '.']

instance : DecidablePred IsPlainName := fun _ => inferInstanceAs (Decidable (_ ∧ _))

inductive Request where
  | saveScript (name content : Text)
  | loadScript (name : Text)
  | saveSettings (settings : Settings)
  | loadSettings (name : Text)
  | list
  /-- A new store on the same disk. -/
  | reopen

inductive Reply where
  | saved (result : Except StoreError Bool)
  | script (result : Except StoreError Text)
  | done (result : Except StoreError Unit)
  | settings (result : Except StoreError Settings)
  | worlds (result : Except StoreError (List Text))
  | reopened

def Reply.error? : Reply → Option StoreError
  | saved (.error e) | script (.error e) | done (.error e) | settings (.error e)
  | worlds (.error e) => some e
  | _ => none

def perform (s : Store) : Request → Store × Reply
  | .saveScript name content =>
    ((s.saveScript name content).1, .saved (s.saveScript name content).2)
  | .loadScript name => ((s.loadScript name).1, .script (s.loadScript name).2)
  | .saveSettings settings => ((s.saveSettings settings).1, .done (s.saveSettings settings).2)
  | .loadSettings name => (s, .settings (s.loadSettings name))
  | .list => (s, .worlds s.list)
  | .reopen => (onDisk s.disk, .reopened)

namespace Request

/-- The name of the world that is asked for, if there is one. -/
def name? : Request → Option Text
  | saveScript name _ | loadScript name | loadSettings name => some name
  | saveSettings settings => some settings.name
  | list | reopen => none

def IsPlain (r : Request) : Prop := ∀ name ∈ r.name?, IsPlainName name

instance (r : Request) : Decidable r.IsPlain :=
  inferInstanceAs (Decidable (∀ name ∈ r.name?, IsPlainName name))

def content? : Request → Option Text
  | saveScript _ content => some content
  | _ => none

end Request

/-! ### What the requests before tell

The last request comes first. -/

/-- The configuration that was saved last. -/
def savedScript (name : Text) : List Request → Text
  | [] => []
  | .saveScript n content :: before => if n = name then content else savedScript name before
  | _ :: before => savedScript name before

/-- The configuration that this store read or saved last. -/
def heldScript? (name : Text) : List Request → Option Text
  | [] | .reopen :: _ => none
  | .saveScript n content :: before => if n = name then some content else heldScript? name before
  | .loadScript n :: before =>
    if n = name then some (savedScript name before) else heldScript? name before
  | _ :: before => heldScript? name before

def savedSettings? (name : Text) : List Request → Option Settings
  | [] => none
  | .saveSettings settings :: before =>
    if settings.name = name then some settings else savedSettings? name before
  | _ :: before => savedSettings? name before

/-- The worlds of which something was written. -/
def written : List Request → List Text
  | [] => []
  | .saveScript name content :: before =>
    if heldScript? name before = some content then written before else name :: written before
  | .saveSettings settings :: before => settings.name :: written before
  | _ :: before => written before

/-- The configurations of which digests are compared. -/
def contents (requests : List Request) : List Text := [] :: requests.filterMap Request.content?

def HaveOwnDigests (contents : List Text) : Prop :=
  ∀ a ∈ contents, ∀ b ∈ contents, a.digest = b.digest → a = b

instance (contents : List Text) : Decidable (HaveOwnDigests contents) :=
  inferInstanceAs (Decidable (∀ a ∈ contents, ∀ b ∈ contents, _ → _))

/-- The reply that the requests before ask for. -/
def IsAnswer (before : List Request) : Request → Reply → Prop
  | .saveScript name content, reply =>
    reply = .saved (.ok (decide (heldScript? name before ≠ some content)))
  | .loadScript name, reply => reply = .script (.ok (savedScript name before))
  | .saveSettings _, reply => reply = .done (.ok ())
  | .loadSettings name, reply =>
    reply = .settings (.ok ((savedSettings? name before).getD (.create name)))
  | .list, reply => ∃ names, reply = .worlds (.ok names) ∧ names.Pairwise (· < ·) ∧
      ∀ name, name ∈ names ↔ name ∈ written before
  | .reopen, reply => reply = .reopened

/-- The stores that requests lead to from an empty disk, if none of them fails for the files. -/
inductive Leads : List Request → Store → Prop where
  | start : Leads [] (.onDisk .empty)
  | step {before : List Request} {s : Store} (h : Leads before s) (r : Request) (plain : r.IsPlain)
      (ok : (s.perform r).2.error? ≠ some .files) : Leads (r :: before) (s.perform r).1

variable {before : List Request} {s : Store} {name content : Text}

theorem heldScript?_eq_some (h : heldScript? name before = some content) :
    content = savedScript name before := by
  induction before with
  | nil => cases h
  | cons r before ih =>
    cases r with
    | saveScript n c | loadScript n =>
      unfold heldScript? at h
      split at h
      · rename_i hn
        cases h
        simp [savedScript, hn]
      · rename_i hn
        simpa [savedScript, hn] using ih h
    | reopen => cases h
    | _ => exact ih h

theorem savedScript_mem (name : Text) (before : List Request) :
    savedScript name before ∈ contents before := by
  induction before with
  | nil => exact List.mem_singleton_self _
  | cons r before ih =>
    cases r with
    | saveScript n c =>
      unfold savedScript
      split
      · simp [contents, Request.content?]
      · rcases List.mem_cons.1 ih with ih | ih
        · simp [contents, ih]
        · simp [contents, Request.content?, ih]
    | _ => exact ih

theorem mem_contents_cons {r : Request} (h : content ∈ contents before) :
    content ∈ contents (r :: before) :=
  (((List.sublist_cons_self r before).filterMap _).cons_cons []).subset h

theorem HaveOwnDigests.of_cons {r : Request} (h : HaveOwnDigests (contents (r :: before))) :
    HaveOwnDigests (contents before) :=
  fun a ha b hb => h a (mem_contents_cons ha) b (mem_contents_cons hb)

/-! ### Files and directories -/

/-- The store knows and the disk has what the requests before tell. -/
structure Holds (before : List Request) (s : Store) : Prop where
  tree : s.disk.IsTree
  top : ∀ text, s.disk.get? [worlds] ≠ some (.file text)
  dirs : ∀ name, s.disk.get? [worlds, name] = if name ∈ written before then some .dir else none
  script : ∀ name, (s.disk.get? [worlds, name, scriptFile]).elim (.ok []) textOfEntry =
    .ok (savedScript name before)
  settings : ∀ name, s.disk.get? [worlds, name, settingsFile] =
    (savedSettings? name before).map fun settings => .file (some settings.toText)
  known : ∀ name, s.known.get? name = (heldScript? name before).map Text.digest

theorem holds_start : Holds [] (.onDisk .empty) where
  tree := Disk.isTree_empty
  top _ := by simp [onDisk, Disk.get?, Disk.empty]
  dirs _ := rfl
  script _ := rfl
  settings _ := rfl
  known _ := rfl

theorem dirNames_eq (h : IsPlainName name) : dirNames name = [worlds, name] := by
  obtain ⟨nonempty, slash, -, dot, -⟩ := h
  have whole : Text.splitAtChar '/' name = [name] :=
    List.splitOnP_eq_singleton fun c hc =>
      beq_eq_false_iff_ne.2 fun same => slash (same ▸ hc)
  simp [dirNames, Disk.components, whole, nonempty, dot]

theorem Holds.entry? (h : Holds before s) (plain : IsPlainName name) {file : Text}
    (hf : file ≠ ['.', '.']) : s.entry? name file = s.disk.get? [worlds, name, file] := by
  have up : ['.', '.'] ∉ [worlds, name] ++ [file] := by
    have top : ['.', '.'] ≠ worlds := by decide
    simp [top, Ne.symm plain.2.2.2.2, Ne.symm hf]
  rw [Store.entry?, dirNames_eq plain, h.tree.resolve? up]
  rfl

section

variable {d d' : Disk} {file : Text} {text : Option Text}

theorem get?_written (w : d.IsWritten [worlds, name] file text d') (n f : Text) :
    d'.get? [worlds, n, f] =
      if n = name ∧ f = file then some (.file text) else d.get? [worlds, n, f] := by
  split
  · rename_i same
    obtain ⟨rfl, rfl⟩ := same
    exact w.file
  · rename_i other
    refine w.kept _ (fun same => other ?_) fun inside => ?_
    · simpa using same
    · have := inside.length_le
      simp at this

theorem get?_world_written (w : d.IsWritten [worlds, name] file text d') (n : Text) :
    d'.get? [worlds, n] = if n = name then some .dir else d.get? [worlds, n] := by
  split
  · rename_i hn
    subst hn
    simpa [Disk.isDir] using w.inside [worlds, n] List.prefix_rfl
  · rename_i hn
    exact w.kept [worlds, n] (by simp) (by simpa using hn)

theorem top_written (w : d.IsWritten [worlds, name] file text d') (t : Option Text) :
    d'.get? [worlds] ≠ some (.file t) := by
  have inside := w.inside [worlds] (by simp)
  rw [Disk.isDir, decide_eq_true_eq] at inside
  simp [inside]

end

theorem Holds.write (h : Holds before s) (plain : IsPlainName name) {file text : Text}
    (done : (s.write name file text).2) :
    s.disk.IsWritten [worlds, name] file (some text) (s.write name file text).1.disk := by
  have up : ['.', '.'] ∉ [worlds, name] := by
    have top : ['.', '.'] ≠ worlds := by decide
    simp [top, Ne.symm plain.2.2.2.2]
  refine h.tree.write up ?_
  rw [← dirNames_eq plain]
  exact Prod.ext rfl done

theorem Holds.known_iff (h : Holds before s)
    (own : HaveOwnDigests (contents (.saveScript name content :: before))) :
    s.known.get? name = some content.digest ↔ heldScript? name before = some content := by
  rw [h.known]
  constructor
  · intro same
    obtain ⟨held, hh, same⟩ := Option.map_eq_some_iff.1 same
    have inside : held ∈ contents (.saveScript name content :: before) := by
      rw [heldScript?_eq_some hh]
      exact mem_contents_cons (savedScript_mem name before)
    have saved : content ∈ contents (.saveScript name content :: before) := by
      simp [contents, Request.content?]
    rw [hh, own held inside content saved same]
  · intro held
    rw [held]
    rfl

/-! ### Requests one by one -/

theorem Holds.loadScript (h : Holds before s) (plain : IsPlainName name) :
    (s.loadScript name).2 = .ok (savedScript name before) ∧
      Holds (.loadScript name :: before) (s.loadScript name).1 := by
  have read : (s.entry? name scriptFile).elim (.ok []) textOfEntry =
      .ok (savedScript name before) := by
    rw [h.entry? plain (by decide)]
    exact h.script name
  rw [Store.loadScript, read]
  refine ⟨rfl, h.tree, h.top, h.dirs, h.script, h.settings, fun n => ?_⟩
  show (s.known.insert name (savedScript name before).digest).get? n = _
  rw [NameMap.get?_insert, heldScript?]
  split
  · rename_i same
    rw [same]
    rfl
  · exact h.known n

theorem Holds.loadSettings (h : Holds before s) (plain : IsPlainName name) :
    s.loadSettings name = .ok ((savedSettings? name before).getD (.create name)) := by
  rw [Store.loadSettings, h.entry? plain (by decide), h.settings]
  cases savedSettings? name before with
  | none => rfl
  | some settings =>
    have kept : textOfEntry (.file settings.toText) = .ok settings.toText := rfl
    simp only [Option.map_some, kept, bind, Except.bind, Settings.ofText?_toText]
    rfl

theorem Holds.list (h : Holds before s) : ∃ names, s.list = .ok names ∧ names.Pairwise (· < ·) ∧
    ∀ name, name ∈ names ↔ name ∈ written before := by
  have found : s.disk.resolve? [] [worlds] = s.disk.get? [worlds] := h.tree.resolve? (by decide) []
  rw [Store.list, found]
  cases ht : s.disk.get? [worlds] with
  | none =>
    refine ⟨[], rfl, .nil, fun name => iff_of_false List.not_mem_nil fun listed => ?_⟩
    have stands : s.disk.get? ([worlds] ++ [name]) = some .dir :=
      (h.dirs name).trans (if_pos listed)
    have inside := h.tree.closed [worlds] name (by rw [stands]; rfl)
    simp [Disk.isDir, ht] at inside
  | some e =>
    cases e with
    | file text => exact absurd ht (h.top text)
    | dir =>
      refine ⟨_, rfl, NameMap.sorted_names _, fun name => (Disk.mem_dirNames h.tree).trans ?_⟩
      have stands := h.dirs name
      simp [Disk.isDir, stands]

theorem Holds.saveSettings {settings : Settings} (h : Holds before s)
    (plain : IsPlainName settings.name) (ok : (s.saveSettings settings).2 ≠ .error .files) :
    (s.saveSettings settings).2 = .ok () ∧
      Holds (.saveSettings settings :: before) (s.saveSettings settings).1 := by
  have saved : s.saveSettings settings = ((s.write settings.name settingsFile settings.toText).1,
      if (s.write settings.name settingsFile settings.toText).2 then .ok () else .error .files) :=
    rfl
  have done : (s.write settings.name settingsFile settings.toText).2 := by
    refine Decidable.by_contra fun failed => ok ?_
    rw [saved, if_neg failed]
  have w := h.write plain done
  have other : scriptFile ≠ settingsFile := by decide
  rw [saved, if_pos done]
  refine ⟨rfl, w.tree, top_written w, fun n => ?_, fun n => ?_, fun n => ?_, h.known⟩
  · rw [get?_world_written w, h.dirs, written]
    by_cases hn : n = settings.name <;> simp [hn]
  · rw [get?_written w, if_neg fun same => other same.2]
    exact h.script n
  · rw [get?_written w, h.settings, savedSettings?]
    by_cases hn : n = settings.name
    · simp [hn]
    · simp [hn, Ne.symm hn]

theorem Holds.saveScript (h : Holds before s) (plain : IsPlainName name)
    (own : HaveOwnDigests (contents (.saveScript name content :: before)))
    (ok : (s.saveScript name content).2 ≠ .error .files) :
    (s.saveScript name content).2 = .ok (decide (heldScript? name before ≠ some content)) ∧
      Holds (.saveScript name content :: before) (s.saveScript name content).1 := by
  have known := h.known_iff own
  by_cases held : heldScript? name before = some content
  · have kept : s.saveScript name content = (s, .ok false) := if_pos (known.2 held)
    rw [kept]
    refine ⟨by simp [held], h.tree, h.top, fun n => ?_, fun n => ?_, h.settings, fun n => ?_⟩
    · rw [h.dirs, written, if_pos held]
    · rw [h.script, savedScript]
      split
      · rename_i hn
        rw [heldScript?_eq_some held, hn]
      · rfl
    · rw [h.known, heldScript?]
      split
      · rename_i hn
        rw [← hn, held]
      · rfl
  · have wrote : s.saveScript name content =
        if (s.write name scriptFile content).2 then
          ((s.write name scriptFile content).1.know name content, .ok true)
        else ((s.write name scriptFile content).1, .error .files) :=
      if_neg fun same => held (known.1 same)
    have done : (s.write name scriptFile content).2 := by
      refine Decidable.by_contra fun failed => ok ?_
      rw [wrote, if_neg failed]
    have w := h.write plain done
    have other : settingsFile ≠ scriptFile := by decide
    rw [wrote, if_pos done]
    refine ⟨by simp [held], w.tree, top_written w, fun n => ?_, fun n => ?_, fun n => ?_,
      fun n => ?_⟩
    · show (s.write name scriptFile content).1.disk.get? _ = _
      rw [get?_world_written w, h.dirs, written, if_neg held]
      by_cases hn : n = name <;> simp [hn]
    · show ((s.write name scriptFile content).1.disk.get? _).elim _ _ = _
      rw [get?_written w, savedScript]
      by_cases hn : n = name
      · simp [hn, textOfEntry]
      · simp [hn, Ne.symm hn, h.script]
    · show (s.write name scriptFile content).1.disk.get? _ = _
      rw [get?_written w, if_neg fun same => other same.2]
      exact h.settings n
    · show (s.known.insert name content.digest).get? n = _
      rw [NameMap.get?_insert, heldScript?]
      split
      · rfl
      · exact h.known n

theorem Holds.perform (h : Holds before s) (r : Request) (plain : r.IsPlain)
    (own : HaveOwnDigests (contents (r :: before))) (ok : (s.perform r).2.error? ≠ some .files) :
    IsAnswer before r (s.perform r).2 ∧ Holds (r :: before) (s.perform r).1 := by
  cases r with
  | saveScript name content =>
    obtain ⟨answer, after⟩ := h.saveScript (plain name rfl) own fun failed => ok <| by
      rw [Store.perform, failed]
      rfl
    exact ⟨congrArg _ answer, after⟩
  | loadScript name =>
    obtain ⟨answer, after⟩ := h.loadScript (plain name rfl)
    exact ⟨congrArg _ answer, after⟩
  | saveSettings settings =>
    obtain ⟨answer, after⟩ := h.saveSettings (plain settings.name rfl) fun failed => ok <| by
      rw [Store.perform, failed]
      rfl
    exact ⟨congrArg _ answer, after⟩
  | loadSettings name =>
    have answer := h.loadSettings (plain name rfl)
    exact ⟨congrArg _ answer, h.tree, h.top, h.dirs, h.script, h.settings, h.known⟩
  | list =>
    obtain ⟨names, answer, sorted, listed⟩ := h.list
    exact ⟨⟨names, congrArg _ answer, sorted, listed⟩,
      h.tree, h.top, h.dirs, h.script, h.settings, h.known⟩
  | reopen => exact ⟨rfl, h.tree, h.top, h.dirs, h.script, h.settings, fun _ => rfl⟩

theorem holds_of_leads (h : Leads before s) (own : HaveOwnDigests (contents before)) :
    Holds before s := by
  induction h with
  | start => exact holds_start
  | step _ r plain ok ih => exact ((ih own.of_cons).perform r plain own ok).2

/-! ### Failures -/

theorem Holds.write_of_short (h : Holds before s) (plain : IsPlainName name)
    (short : Disk.isTooLong name = false) {file : Text}
    (known : file = scriptFile ∨ file = settingsFile) (text : Text) :
    (s.write name file text).2 := by
  have ok : file ≠ ['.', '.'] ∧ '\x00' ∉ file ∧ Disk.isTooLong file = false := by
    rcases known with rfl | rfl <;> decide
  have top : worlds ≠ ['.', '.'] ∧ '\x00' ∉ worlds ∧ Disk.isTooLong worlds = false := by decide
  have free : ¬s.disk.isDir [worlds, name, file] := by
    intro dir
    rw [Disk.isDir, decide_eq_true_eq] at dir
    rcases known with rfl | rfl
    · have script := h.script name
      rw [dir] at script
      cases script
    · have settings := h.settings name
      rw [dir] at settings
      obtain ⟨_, -, same⟩ := Option.map_eq_some_iff.1 settings.symm
      cases same
  show (s.disk.write (dirNames name) file (some text)).2
  rw [dirNames_eq plain]
  refine h.tree.write_of_short ?_ ?_ ?_ ?_ free
  · simp [Ne.symm ok.1, Ne.symm top.1, Ne.symm plain.2.2.2.2]
  · simp [ok.2.1, top.2.1, plain.2.2.1]
  · simp [ok.2.2, top.2.2, short]
  · intro way inside text
    rcases List.prefix_cons_iff.1 inside with rfl | ⟨way, rfl, below⟩
    · exact h.tree.root text
    rcases List.prefix_cons_iff.1 below with rfl | ⟨way, rfl, last⟩
    · exact h.top text
    rw [List.prefix_nil.1 last, h.dirs]
    split <;> simp

/-- Only a name that is too long makes a request fail. -/
theorem Holds.error?_ne_files (h : Holds before s) (r : Request) (plain : r.IsPlain)
    (short : ∀ name ∈ r.name?, Disk.isTooLong name = false) :
    (s.perform r).2.error? ≠ some .files := by
  cases r with
  | saveScript name content =>
    have done := h.write_of_short (plain name rfl) (short name rfl) (.inl rfl) content
    show (Reply.saved (s.saveScript name content).2).error? ≠ _
    unfold Store.saveScript
    split
    · simp [Reply.error?]
    · show (Reply.saved (if (s.write name scriptFile content).2 then _ else _ :
        Store × _).2).error? ≠ _
      rw [if_pos done]
      simp [Reply.error?]
  | loadScript name =>
    rw [Store.perform, (h.loadScript (plain name rfl)).1]
    simp [Reply.error?]
  | saveSettings settings =>
    have done := h.write_of_short (plain settings.name rfl) (short settings.name rfl) (.inr rfl)
      settings.toText
    show (Reply.done
      (if (s.write settings.name settingsFile settings.toText).2 then _ else _)).error? ≠ _
    rw [if_pos done]
    simp [Reply.error?]
  | loadSettings name =>
    rw [Store.perform, h.loadSettings (plain name rfl)]
    simp [Reply.error?]
  | list =>
    obtain ⟨names, answer, -⟩ := h.list
    rw [Store.perform, answer]
    simp [Reply.error?]
  | reopen => simp [Store.perform, Reply.error?]

/-! ### Runs -/

theorem error?_of_leads (h : Leads before s) (own : HaveOwnDigests (contents before)) (r : Request)
    (plain : r.IsPlain) (short : ∀ name ∈ r.name?, Disk.isTooLong name = false) :
    (s.perform r).2.error? ≠ some .files :=
  (holds_of_leads h own).error?_ne_files r plain short

/-- Whatever was asked before, a request is answered as the requests before it tell. -/
theorem isAnswer_of_leads (h : Leads before s) (r : Request) (plain : r.IsPlain)
    (own : HaveOwnDigests (contents (r :: before))) (ok : (s.perform r).2.error? ≠ some .files) :
    IsAnswer before r (s.perform r).2 :=
  ((holds_of_leads h own.of_cons).perform r plain own ok).1

/-- A world is saved, and its configuration is read by a new store. -/
def readAgain : List Request :=
  [.loadScript "狼 1".toList, .reopen, .saveScript "狼 1".toList "#alias kk {kill orc}\n".toList,
    .saveSettings { Settings.create "狼 1".toList with host := "a \"b\"\t\\".toList, port := 4000 }]

theorem isAnswer_readAgain : ∃ s, Leads readAgain s ∧
    (Request.saveScript "狼 1".toList "#alias kk {kill orc}\n".toList).IsPlain ∧
    HaveOwnDigests (contents (.saveScript "狼 1".toList "#alias kk {kill orc}\n".toList ::
      readAgain)) ∧
    IsAnswer readAgain (.saveScript "狼 1".toList "#alias kk {kill orc}\n".toList)
      (s.perform (.saveScript "狼 1".toList "#alias kk {kill orc}\n".toList)).2 := by
  have leads : Leads readAgain _ :=
    (((Leads.start.step _ (by decide) (by decide +kernel)).step _ (by decide)
      (by decide +kernel)).step _ (by decide) (by decide +kernel)).step _ (by decide)
        (by decide +kernel)
  exact ⟨_, leads, by decide, by decide +kernel,
    isAnswer_of_leads leads _ (by decide) (by decide +kernel) (by decide +kernel)⟩

end MudClient.Store
