import Mathlib.Data.List.Nodup
import Mathlib.Data.Set.Defs
import MudClient.Proofs.Reaction.Shortcut
import MudClient.Proofs.Unicode.Ascii
/-! The spellings of a shortcut. Two texts are the same shortcut if they name the same modifiers and
the same key, and of all its spellings the one that is shown is read as the shortcut again. -/
namespace MudClient

open Unicode (IsAscii)

/-- The names of a modifier. -/
def Modifier.names : Modifier → List Text
  | ctrl => ["ctrl".toList, "control".toList]
  | alt => ["alt".toList]
  | shift => ["shift".toList]

/-- The one by which it is shown. -/
def Modifier.shown : Modifier → Text
  | ctrl => "Ctrl".toList
  | alt => "Alt".toList
  | shift => "Shift".toList

namespace Shortcut

open Text (lowerAscii trim splitAtChar)

variable {t u k l part : Text} {s r : Shortcut} {m : Modifier}

/-- A part names a modifier, in whatever case and with whatever white space around it. -/
def Names (part : Text) (m : Modifier) : Prop := lowerAscii (trim part) ∈ m.names

instance (part : Text) (m : Modifier) : Decidable (Names part m) :=
  inferInstanceAs (Decidable (_ ∈ _))

def IsModifier (part : Text) : Prop := ∃ m, Names part m

instance (part : Text) : Decidable (IsModifier part) :=
  decidable_of_iff (Names part .ctrl ∨ Names part .alt ∨ Names part .shift) <| by
    constructor
    · rintro (h | h | h) <;> exact ⟨_, h⟩
    · rintro ⟨m, h⟩
      cases m <;> simp [h]

/-- The rules by which a shortcut is written: no part is blank, no modifier is named twice, and one
part is a key. -/
structure IsSpelled (t : Text) : Prop where
  filled : ∀ part ∈ splitAtChar '+' t, Text.isAllBlank part = false
  once : ∀ m, (splitAtChar '+' t).countP (Names · m) ≤ 1
  key : (splitAtChar '+' t).countP (¬IsModifier ·) = 1

/-- The modifiers that a text names. -/
def named (t : Text) : Set Modifier := {m | ∃ part ∈ splitAtChar '+' t, Names part m}

/-- The part of a text that is its key. -/
def IsKeyOf (t k : Text) : Prop := ∃ part ∈ splitAtChar '+' t, ¬IsModifier part ∧ trim part = k

def has (s : Shortcut) : Modifier → Bool
  | .ctrl => s.ctrl
  | .alt => s.alt
  | .shift => s.shift

theorem ext_has (hk : s.key = r.key) (h : ∀ m, s.has m = r.has m) : s = r := by
  obtain ⟨key, ctrl, alt, shift⟩ := s
  obtain ⟨key', ctrl', alt', shift'⟩ := r
  obtain rfl : key = key' := hk
  obtain rfl : ctrl = ctrl' := h .ctrl
  obtain rfl : alt = alt' := h .alt
  obtain rfl : shift = shift' := h .shift
  rfl

theorem ofName?_eq_some {name : Text} : Modifier.ofName? name = some m ↔ name ∈ m.names := by
  constructor
  · intro h
    unfold Modifier.ofName? at h
    split at h
    case isTrue hn =>
      cases h
      simpa [Modifier.names] using hn
    case isFalse =>
      split at h
      case isTrue hn =>
        cases h
        simpa [Modifier.names] using hn
      case isFalse =>
        rw [Option.ite_none_right_eq_some] at h
        obtain ⟨hn, ⟨⟩⟩ := h
        simpa [Modifier.names] using hn
  · have named : ∀ n ∈ m.names, Modifier.ofName? n = some m := by
      cases m <;> decide
    exact named name

theorem modifier?_eq_some : modifier? part = some m ↔ lowerAscii part ∈ m.names := by
  have plain : ∀ n ∈ m.names, n.all Unicode.isPlain := by
    cases m <;> decide
  have either : ∀ n ∈ m.names, (n = Unicode.lower part ↔ n = lowerAscii part) := fun n hn => by
    rw [eq_comm, Unicode.lower_eq_iff (List.all_eq_true.1 (plain n hn)), eq_comm]
  rw [modifier?, ofName?_eq_some]
  exact ⟨fun h => ((either _ h).1 rfl) ▸ h, fun h => ((either _ h).2 rfl) ▸ h⟩

/-- Only the letters of ASCII can make a modifier of a text. -/
theorem modifier?_lowerAscii (part : Text) : modifier? (lowerAscii part) = modifier? part := by
  ext m
  rw [modifier?_eq_some, modifier?_eq_some, Unicode.lowerAscii_lowerAscii]

theorem names_iff : Names part m ↔ modifier? (trim part) = some m := modifier?_eq_some.symm

theorem isModifier_iff : IsModifier part ↔ (modifier? (trim part)).isSome := by
  simp only [IsModifier, names_iff, Option.isSome_iff_exists]

/-! ### Keys -/

theorem normalizeKey_lowerAscii (k : Text) : normalizeKey (lowerAscii k) = normalizeKey k := by
  cases k with
  | nil => rfl
  | cons c k =>
    change Unicode.toUpper c.toLower ++ (lowerAscii k).flatMap Unicode.toLower = _
    rw [Unicode.toUpper_toLower, lowerAscii, List.flatMap_map, normalizeKey]
    simp only [Unicode.toLower_toLower]

theorem lowerAscii_normalizeKey (hk : IsAscii k) : lowerAscii (normalizeKey k) = lowerAscii k := by
  cases k with
  | nil => rfl
  | cons c k =>
    obtain ⟨hc, hk⟩ := List.forall_mem_cons.1 hk
    have first : c.toUpper.toLower = c.toLower :=
      Unicode.forall_ascii (p := fun c => c.toUpper.toLower = c.toLower) (by decide) hc
    have rest : k.flatMap Unicode.toLower = lowerAscii k := by
      rw [lowerAscii, List.map_eq_flatMap]
      exact List.flatMap_congr fun d hd => Unicode.toLower_of_ascii (hk d hd)
    rw [normalizeKey, Unicode.toUpper_of_ascii hc, rest, List.singleton_append]
    change c.toUpper.toLower :: lowerAscii (lowerAscii k) = c.toLower :: lowerAscii k
    rw [first, Unicode.lowerAscii_lowerAscii]

theorem normalizeKey_eq_iff (hk : IsAscii k) (hl : IsAscii l) :
    normalizeKey k = normalizeKey l ↔ lowerAscii k = lowerAscii l := by
  constructor
  · intro h
    rw [← lowerAscii_normalizeKey hk, h, lowerAscii_normalizeKey hl]
  · intro h
    rw [← normalizeKey_lowerAscii k, h, normalizeKey_lowerAscii]

/-! ### Reading -/

/-- The parts of a text that are keys. -/
def keys (t : Text) : List Text := (parts t).filter fun p => (modifier? p).isNone

def modifiers (t : Text) : List Modifier := (parts t).filterMap modifier?

theorem mem_keys : k ∈ keys t ↔ IsKeyOf t k := by
  simp only [keys, parts, IsKeyOf, isModifier_iff, List.mem_filter, List.mem_map]
  constructor
  · rintro ⟨⟨part, hp, rfl⟩, none⟩
    exact ⟨part, hp, by simpa using none, rfl⟩
  · rintro ⟨part, hp, none, rfl⟩
    exact ⟨⟨part, hp, rfl⟩, by simpa using none⟩

theorem mem_modifiers : m ∈ modifiers t ↔ m ∈ named t := by
  simp only [modifiers, parts, List.mem_filterMap, List.mem_map, exists_exists_and_eq_and]
  exact exists_congr fun part => and_congr_right fun _ => names_iff.symm

theorem length_keys (t : Text) :
    (keys t).length = (splitAtChar '+' t).countP (¬IsModifier ·) := by
  rw [keys, parts, ← List.countP_eq_length_filter, List.countP_map]
  refine List.countP_congr fun part _ => ?_
  simp [isModifier_iff]

theorem count_modifiers (m : Modifier) (t : Text) :
    (modifiers t).count m = (splitAtChar '+' t).countP (Names · m) := by
  rw [modifiers, parts, List.count_filterMap, List.countP_map]
  refine List.countP_congr fun part _ => ?_
  simp [names_iff]

theorem parse?_eq_some : parse? t = some s ↔ ∃ k, keys t = [k] ∧ k ≠ [] ∧ (modifiers t).Nodup ∧
    s.key = normalizeKey k ∧ ∀ m, s.has m ↔ m ∈ modifiers t := by
  unfold parse?
  dsimp only
  constructor
  · intro h
    split at h
    case h_1 k hk =>
      rw [Option.ite_none_left_eq_some] at h
      obtain ⟨rules, ⟨⟩⟩ := h
      obtain ⟨filled, once⟩ : k ≠ [] ∧ (modifiers t).Nodup := by simpa [modifiers] using rules
      exact ⟨k, hk, filled, once, rfl, fun m => by cases m <;> exact List.contains_iff_mem⟩
    case h_2 => cases h
  · rintro ⟨k, hk, filled, once, hkey, hm⟩
    rw [show List.filter _ (parts t) = [k] from hk]
    dsimp only
    rw [if_neg (by simpa [modifiers] using ⟨filled, once⟩)]
    have has (m : Modifier) : s.has m = (modifiers t).contains m := by
      rw [Bool.eq_iff_iff, hm, List.contains_iff_mem]
    exact congrArg some (ext_has hkey.symm fun m => by cases m <;> exact (has _).symm)

theorem eq_of_isKeyOf (hs : parse? t = some s) (hk : IsKeyOf t k) :
    keys t = [k] ∧ k ≠ [] ∧ s.key = normalizeKey k := by
  obtain ⟨key, only, filled, -, hkey, -⟩ := parse?_eq_some.1 hs
  obtain rfl : k = key := List.mem_singleton.1 (only ▸ mem_keys.2 hk)
  exact ⟨only, filled, hkey⟩

theorem mem_named_iff (hs : parse? t = some s) : m ∈ named t ↔ s.has m := by
  obtain ⟨-, -, -, -, -, hm⟩ := parse?_eq_some.1 hs
  rw [hm, mem_modifiers]

theorem isSpelled_iff : IsSpelled t ↔ ∃ k, keys t = [k] ∧ k ≠ [] ∧ (modifiers t).Nodup := by
  constructor
  · intro ⟨filled, once, key⟩
    obtain ⟨k, only⟩ := List.length_eq_one_iff.1 ((length_keys t).trans key)
    refine ⟨k, only, ?_, List.nodup_iff_count_le_one.2 fun m => count_modifiers m t ▸ once m⟩
    obtain ⟨part, hp, -, rfl⟩ := mem_keys.1 (only ▸ List.mem_singleton_self k)
    rw [Ne, Text.trim_eq_nil_iff, filled part hp]
    exact Bool.false_ne_true
  · rintro ⟨k, only, filled, once⟩
    refine ⟨fun part hp => ?_, fun m => ?_, ?_⟩
    · rw [Bool.eq_false_iff]
      intro blank
      have empty : trim part = [] := Text.trim_eq_nil_iff.2 blank
      have key : IsKeyOf t [] := ⟨part, hp, by rw [isModifier_iff, empty]; decide, empty⟩
      exact filled (List.mem_singleton.1 (only ▸ mem_keys.2 key)).symm
    · exact count_modifiers m t ▸ List.nodup_iff_count_le_one.1 once m
    · rw [← length_keys, only, List.length_singleton]

theorem exists_parse?_iff : (∃ s, parse? t = some s) ↔ IsSpelled t := by
  rw [isSpelled_iff]
  constructor
  · rintro ⟨s, hs⟩
    obtain ⟨k, only, filled, once, -⟩ := parse?_eq_some.1 hs
    exact ⟨k, only, filled, once⟩
  · rintro ⟨k, only, filled, once⟩
    refine ⟨⟨normalizeKey k, .ctrl ∈ modifiers t, .alt ∈ modifiers t, .shift ∈ modifiers t⟩,
      parse?_eq_some.2 ⟨k, only, filled, once, rfl, fun m => ?_⟩⟩
    cases m <;> exact decide_eq_true_iff

theorem modifiers_eq (t : Text) :
    modifiers t = ((parts t).map lowerAscii).filterMap modifier? := by
  rw [List.filterMap_map, modifiers]
  exact congrArg (List.filterMap · _) (funext fun p => (modifier?_lowerAscii p).symm)

theorem lowerAscii_keys (t : Text) : (keys t).map lowerAscii =
    ((parts t).map lowerAscii).filter fun p => (modifier? p).isNone := by
  rw [List.filter_map, keys]
  exact congrArg (fun p => List.map lowerAscii (List.filter p _))
    (funext fun p => by rw [Function.comp_apply, modifier?_lowerAscii])

/-- Order, case and white space do not matter. -/
theorem parse?_of_perm (h : ((parts t).map lowerAscii).Perm ((parts u).map lowerAscii))
    (hs : parse? t = some s) : parse? u = some s := by
  obtain ⟨k, only, filled, once, hkey, hm⟩ := parse?_eq_some.1 hs
  have same : (modifiers t).Perm (modifiers u) := by
    rw [modifiers_eq, modifiers_eq]
    exact h.filterMap modifier?
  have key : ((keys t).map lowerAscii).Perm ((keys u).map lowerAscii) := by
    rw [lowerAscii_keys, lowerAscii_keys]
    exact h.filter _
  rw [only, List.map_singleton, List.singleton_perm] at key
  obtain ⟨l, hl, hkl⟩ := List.map_eq_singleton_iff.1 key.symm
  refine parse?_eq_some.2 ⟨l, hl, ?_, same.nodup_iff.1 once, ?_, fun m => ?_⟩
  · rintro rfl
    exact filled (List.map_eq_nil_iff.1 hkl.symm)
  · rw [hkey, ← normalizeKey_lowerAscii k, ← hkl, normalizeKey_lowerAscii]
  · rw [hm, same.mem_iff]

/-! ### Showing -/

theorem parts_cons_blank (t : Text) : parts (' ' :: t) = parts t := by
  unfold parts splitAtChar
  rw [List.splitOnP_cons_eq_if_modifyHead, if_neg (by decide)]
  cases t.splitOnP (· == '+') with
  | nil => rfl
  | cons first more =>
    rw [List.modifyHead_cons, List.map_cons, Text.trim_cons_blank rfl, List.map_cons]

theorem parts_append {w : Text} (hw : '+' ∉ w) (rest : Text) :
    parts (w ++ " + ".toList ++ rest) = trim w :: parts rest := by
  have first : splitAtChar '+' (w ++ [' ']) = [w ++ [' ']] :=
    Text.splitAtChar_of_not_mem (by simp [hw])
  have cut : splitAtChar '+' (w ++ [' '] ++ '+' :: ' ' :: rest) =
      splitAtChar '+' (w ++ [' ']) ++ splitAtChar '+' (' ' :: rest) :=
    List.splitOnP_append_cons _ _ rfl
  have trimmed : trim (w ++ [' ']) = trim w := by
    rw [← Text.trim_cons_blank (c := ' ') rfl, ← List.cons_append, Text.trim_spaced]
  have sign : w ++ " + ".toList ++ rest = w ++ [' '] ++ '+' :: ' ' :: rest := by simp
  calc parts (w ++ " + ".toList ++ rest)
      = trim (w ++ [' ']) :: parts (' ' :: rest) := by rw [sign, parts, cut, first]; rfl
    _ = trim w :: parts rest := by rw [trimmed, parts_cons_blank]

/-- A key that is shown as it is read. -/
structure IsShownKey (k : Text) : Prop where
  plain : '+' ∉ k
  trimmed : trim k = k
  filled : k ≠ []
  unnamed : modifier? k = none
  normal : normalizeKey k = k

theorem isShownKey_of_isKeyOf (hs : parse? t = some s) (hk : IsKeyOf t k) (ha : IsAscii k) :
    IsShownKey s.key := by
  obtain ⟨-, filled, hkey⟩ := eq_of_isKeyOf hs hk
  obtain ⟨part, hp, unnamed, rfl⟩ := hk
  have same : lowerAscii s.key = lowerAscii (trim part) := hkey ▸ lowerAscii_normalizeKey ha
  constructor
  · intro plus
    rw [← Unicode.plus_mem_lowerAscii, same, Unicode.plus_mem_lowerAscii] at plus
    exact Text.not_mem_of_mem_splitAtChar hp ((Text.trim_sublist part).subset plus)
  · have length : (trim s.key).length = s.key.length := by
      have kept : lowerAscii (trim s.key) = lowerAscii s.key := by
        rw [← Unicode.trim_lowerAscii, same, Unicode.trim_lowerAscii, Text.trim_trim]
      simpa [lowerAscii] using congrArg List.length kept
    exact (Text.trim_sublist _).eq_of_length length
  · intro empty
    rw [empty] at same
    exact filled (List.map_eq_nil_iff.1 same.symm)
  · rw [← modifier?_lowerAscii, same, modifier?_lowerAscii]
    simpa [isModifier_iff] using unnamed
  · rw [← normalizeKey_lowerAscii, same, normalizeKey_lowerAscii, hkey]

/-- The modifiers of a shortcut in the order in which they are shown. -/
def held (s : Shortcut) : List Modifier := [.ctrl, .alt, .shift].filter s.has

theorem mem_held : m ∈ s.held ↔ s.has m := by
  cases m <;> simp [held]

theorem shownModifiers_eq (s : Shortcut) :
    s.shownModifiers = s.held.flatMap fun m => m.shown ++ " + ".toList := by
  obtain ⟨key, ctrl, alt, shift⟩ := s
  cases ctrl <;> cases alt <;> cases shift <;> rfl

theorem parts_display (hk : '+' ∉ s.key) : parts s.display = s.held.map Modifier.shown ++ [trim s.key] := by
  rw [display_eq, shownModifiers_eq]
  induction s.held with
  | nil =>
    rw [List.flatMap_nil, List.nil_append, parts, Text.splitAtChar_of_not_mem hk]
    rfl
  | cons m ms ih =>
    have plain : '+' ∉ m.shown := by cases m <;> decide
    have trimmed : trim m.shown = m.shown := by cases m <;> decide
    rw [List.flatMap_cons, List.append_assoc, parts_append plain, ih, trimmed]
    rfl

theorem modifier?_shown (m : Modifier) : modifier? m.shown = some m := by
  rw [modifier?_eq_some]
  cases m <;> decide

theorem parse?_display (h : IsShownKey s.key) : parse? s.display = some s := by
  have written := parts_display h.plain
  rw [h.trimmed] at written
  have key : keys s.display = [s.key] := by
    simp [keys, written, modifier?_shown, h.unnamed]
  have modifiers : modifiers s.display = s.held := by
    simp [modifiers, written, h.unnamed, modifier?_shown]
  refine parse?_eq_some.2 ⟨s.key, key, h.filled, ?_, h.normal.symm, fun m => ?_⟩
  · rw [modifiers]
    exact List.Nodup.filter _ (by decide)
  · rw [modifiers, mem_held]

theorem ofText_eq_ok : ofText t = .ok s ↔ parse? t = some s := by
  unfold ofText
  cases parse? t <;> simp

/-- A text is a shortcut, and its key is of characters of ASCII. -/
structure Reads (t k : Text) (s : Shortcut) : Prop where
  ok : ofText t = .ok s
  key : IsKeyOf t k
  ascii : IsAscii k

theorem eq_iff_of_reads (ht : Reads t k s) (hu : Reads u l r) :
    s = r ↔ named t = named u ∧ lowerAscii k = lowerAscii l := by
  have hs := ofText_eq_ok.1 ht.ok
  have hr := ofText_eq_ok.1 hu.ok
  have same : named t = named u ↔ ∀ m, s.has m = r.has m := by
    rw [Set.ext_iff]
    exact forall_congr' fun m => by rw [mem_named_iff hs, mem_named_iff hr, ← Bool.eq_iff_iff]
  obtain ⟨-, -, hsk⟩ := eq_of_isKeyOf hs ht.key
  obtain ⟨-, -, hrk⟩ := eq_of_isKeyOf hr hu.key
  rw [same, ← normalizeKey_eq_iff ht.ascii hu.ascii, ← hsk, ← hrk]
  constructor
  · rintro rfl
    exact ⟨fun _ => rfl, rfl⟩
  · rintro ⟨modifiers, key⟩
    exact ext_has key modifiers

/-- A text is a shortcut exactly if it keeps to the rules. It is the same one for all texts that name
the same modifiers and the same key, and among them is the text by which it is shown. -/
theorem ofText_spelling :
    (∀ t, (∃ s, ofText t = .ok s) ↔ IsSpelled t) ∧
    (∀ t u k l s r, Reads t k s → Reads u l r →
      (s = r ↔ named t = named u ∧ lowerAscii k = lowerAscii l)) ∧
    (∀ t u s, ((parts t).map lowerAscii).Perm ((parts u).map lowerAscii) →
      (ofText t = .ok s ↔ ofText u = .ok s)) ∧
    ∀ t k s, Reads t k s → ∃ r, ofText s.display = .ok r ∧ r = s ∧ r.display = s.display := by
  refine ⟨fun t => ?_, fun _ _ _ _ _ _ => eq_iff_of_reads, fun t u s h => ?_, fun t k s h => ?_⟩
  · simp only [ofText_eq_ok, exists_parse?_iff]
  · rw [ofText_eq_ok, ofText_eq_ok]
    exact ⟨parse?_of_perm h, parse?_of_perm h.symm⟩
  · have again := parse?_display (isShownKey_of_isKeyOf (ofText_eq_ok.1 h.ok) h.key h.ascii)
    exact ⟨s, ofText_eq_ok.2 again, rfl, rfl⟩

/-- Other orders, other cases, other white space and the other name of a modifier. -/
theorem ofText_spelling_functionKey :
    Reads "shift+CTRL+f5".toList "f5".toList ⟨"F5".toList, true, false, true⟩ ∧
    Reads " Control +Shift\t+ F5".toList "F5".toList ⟨"F5".toList, true, false, true⟩ ∧
    IsSpelled "shift+CTRL+f5".toList ∧
    named "shift+CTRL+f5".toList = named " Control +Shift\t+ F5".toList ∧
    ofText " F5+Shift +ctrl".toList = .ok ⟨"F5".toList, true, false, true⟩ ∧
    ofText "Ctrl + Shift + F5".toList = .ok ⟨"F5".toList, true, false, true⟩ := by
  obtain ⟨accepted, equal, respelled, shown⟩ := ofText_spelling
  have plain : Reads "shift+CTRL+f5".toList "f5".toList ⟨"F5".toList, true, false, true⟩ :=
    ⟨rfl, ⟨"f5".toList, by decide, by decide, rfl⟩, by decide⟩
  have spaced : Reads " Control +Shift\t+ F5".toList "F5".toList ⟨"F5".toList, true, false, true⟩ :=
    ⟨rfl, ⟨" F5".toList, by decide, by decide, rfl⟩, by decide⟩
  have turned : ((parts "shift+CTRL+f5".toList).map lowerAscii).Perm
      ((parts " F5+Shift +ctrl".toList).map lowerAscii) := by decide
  obtain ⟨_, again, rfl, -⟩ := shown _ _ _ plain
  exact ⟨plain, spaced, (accepted _).1 ⟨_, plain.ok⟩, ((equal _ _ _ _ _ _ plain spaced).1 rfl).1,
    (respelled _ _ _ turned).1 plain.ok, again⟩

end Shortcut
end MudClient
