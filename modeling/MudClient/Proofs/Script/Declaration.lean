import MudClient.Proofs.Reaction.Shortcut
import MudClient.Proofs.Script.Compile
import MudClient.Proofs.Script.Written
import MudClient.Script.Run
/-! Declarations. Channels, aliases, triggers and key bindings are declared by one statement each,
whose texts decide what is declared. A configuration writes one such statement a line. -/
namespace MudClient

open Script

/-- What a configuration declares. -/
inductive Item where
  | ofChannel (name : Text)
  | ofAlias (item : Alias)
  | ofTrigger (item : Trigger)
  | ofKeyBinding (item : KeyBinding)

theorem Pattern.ofSource_eq_ok {source : Text} {p : Pattern} :
    ofSource source = .ok p ↔ p.source = source := by
  unfold ofSource
  split
  · rename_i m hm
    constructor
    · rintro h
      cases h
      rfl
    · intro h
      exact congrArg _ (eq_of_source_eq h.symm)
  · rename_i hm
    constructor
    · intro h
      cases h
    · rintro rfl
      exact absurd (hm.symm.trans p.matcher_eq) (by simp)

namespace Item

def effect : Item → Effect
  | ofChannel name => .declareChannel name
  | ofAlias a => .declareAlias a
  | ofTrigger t => .declareTrigger t
  | ofKeyBinding b => .declareKeyBinding b

def function : Item → Builtin
  | ofChannel _ => .declareChannel
  | ofAlias _ => .declareAlias
  | ofTrigger _ => .declareTrigger
  | ofKeyBinding _ => .declareKeyBinding

/-- What it is told apart by, as it is written. -/
def subject : Item → Text
  | ofChannel name => name
  | ofAlias a => a.pattern.source
  | ofTrigger t => t.pattern.source
  | ofKeyBinding b => b.shortcut.display

def actions : Item → List Text
  | ofChannel _ => []
  | ofAlias a => [a.action]
  | ofTrigger t => t.action :: t.substitution.toList
  | ofKeyBinding b => [b.action]

def flags : Item → Flags
  | ofTrigger t => t.flags
  | _ => ∅

def written (i : Item) : List Text := i.subject :: i.actions.map Separator.collapse

def line (i : Item) : Text := declaration i.function.name i.subject i.actions i.flags

/-- The texts and flags of a call from which it comes. -/
def IsOf (texts : List Text) (flags : Flags) : Item → Prop
  | ofChannel name => ∃ more, texts = name :: more
  | ofAlias a => ∃ more, texts = a.pattern.source :: a.action :: more
  | ofTrigger t => ∃ more, texts = t.pattern.source :: t.action :: more ∧
      more.head?.filter (!·.isEmpty) = t.substitution ∧ flags.isOn "mute" = t.mute ∧
      flags.isOn "mark" = t.mark
  | ofKeyBinding b => ∃ text more, texts = text :: b.action :: more ∧
      Shortcut.parse? text = some b.shortcut

theorem effect_injective {i j : Item} (h : i.effect = j.effect) : i = j := by
  cases i <;> cases j <;> cases h <;> rfl

theorem substitutes_function (i : Item) : i.function.substitutes = false := by
  cases i <;> rfl

theorem find?_function (i : Item) :
    Registry.builtins.find? i.function.name.toList = some i.function := by
  cases i with
  | ofChannel | ofAlias | ofTrigger | ofKeyBinding =>
    dsimp only [function]
    decide

theorem ofEffect_effect {i j : Item} : Reply.ofEffect i.effect = .ofEffect j.effect ↔ i = j := by
  simp only [Reply.ofEffect, Reply.mk.injEq, List.cons.injEq, and_true]
  exact ⟨effect_injective, congrArg effect⟩

end Item

namespace Script.Builtin

variable {f : Builtin} {locals : Locals} {texts : List Text} {flags : Flags} {reply : Reply}

theorem declare_eq {α : Type} {effect : α → Effect} {x : Except ScriptError α} {reply : Reply}
    (h : Reply.declare effect x = reply) :
    (∃ e, reply = .ofError e) ∨ ∃ a, x = .ok a ∧ reply = .ofEffect (effect a) := by
  cases x with
  | error e => exact .inl ⟨e, h.symm⟩
  | ok a => exact .inr ⟨a, rfl, h.symm⟩

/-- A function that takes its texts as they are written declares what they say. -/
theorem run_declares (hf : f.substitutes = false) (h : f.run locals texts flags = .ok reply) :
    (∃ e, reply = .ofError e) ∨
      ∃ i : Item, i.function = f ∧ i.IsOf texts flags ∧ reply = .ofEffect i.effect := by
  cases f with
  | send | say | display | play | feed | pause | writeVar | checkVar | delVar => cases hf
  | declareChannel =>
    cases texts with
    | nil => cases h
    | cons name more =>
      cases h
      exact .inr ⟨.ofChannel name, rfl, ⟨more, rfl⟩, rfl⟩
  | declareAlias =>
    match texts, h with
    | source :: action :: more, h =>
      rcases declare_eq (Except.ok.inj h) with he | ⟨a, ha, rfl⟩
      · exact .inl he
      · obtain ⟨p, hp, rfl⟩ := map_eq_ok.1 ha
        refine .inr ⟨.ofAlias ⟨p, action⟩, rfl, ⟨more, ?_⟩, rfl⟩
        rw [Pattern.ofSource_eq_ok.1 hp]
  | declareTrigger =>
    match texts, h with
    | source :: action :: more, h =>
      rcases declare_eq (Except.ok.inj h) with he | ⟨t, ht, rfl⟩
      · exact .inl he
      · obtain ⟨p, hp, rfl⟩ := map_eq_ok.1 ht
        refine .inr ⟨.ofTrigger _, rfl, ⟨more, ?_, rfl, rfl, rfl⟩, rfl⟩
        rw [Pattern.ofSource_eq_ok.1 hp]
  | declareKeyBinding =>
    cases texts with
    | nil => cases h
    | cons text more =>
      simp only [run, Shortcut.ofText] at h
      cases hs : Shortcut.parse? text with
      | none =>
        rw [hs] at h
        cases h
        exact .inl ⟨_, rfl⟩
      | some s =>
        rw [hs] at h
        cases more with
        | nil => cases h
        | cons action more =>
          cases h
          exact .inr ⟨.ofKeyBinding ⟨s, action⟩, rfl, ⟨text, more, rfl, hs⟩, rfl⟩

theorem run_of_isOf {i : Item} (h : i.IsOf texts flags) :
    i.function.run locals texts flags = .ok (.ofEffect i.effect) := by
  cases i with
  | ofChannel name =>
    obtain ⟨more, rfl⟩ := h
    rfl
  | ofAlias a =>
    obtain ⟨more, rfl⟩ := h
    have created : Alias.create a.pattern.source a.action = .ok a := by
      rw [Alias.create, Pattern.ofSource_eq_ok.2 rfl]
      rfl
    simp only [Item.function, run, created]
    rfl
  | ofTrigger t =>
    obtain ⟨more, rfl, hs, hmute, hmark⟩ := h
    have created : declaredTrigger t.pattern.source t.action more.head? flags = .ok t := by
      rw [declaredTrigger, hs, hmute, hmark, Trigger.create, Pattern.ofSource_eq_ok.2 rfl]
      rfl
    simp only [Item.function, run, created]
    rfl
  | ofKeyBinding b =>
    obtain ⟨text, more, rfl, hs⟩ := h
    simp only [Item.function, run, Shortcut.ofText, hs]
    rfl

theorem effect_not_mem_of_substitutes (hf : f.substitutes) (h : f.run locals texts flags = .ok reply)
    (i : Item) : i.effect ∉ reply.effects := by
  cases f with
  | declareAlias | declareTrigger | declareKeyBinding | declareChannel => cases hf
  | send | say | display | pause =>
    cases h
    cases i <;> simp [Reply.ofEffect, Reply.ofFlow, Item.effect]
  | play | feed | writeVar | delVar =>
    cases texts with
    | nil => cases h
    | cons a more =>
      cases h
      cases i <;> simp [Reply.ofEffect, Reply.ofChange, Item.effect]
  | checkVar =>
    cases texts with
    | nil => cases h
    | cons a more =>
      cases h
      unfold check
      split
      · simp [Reply.ofFlow]
      · split <;> cases i <;> simp [Item.effect]

end Script.Builtin

namespace Script

/-- The text comes back from its written form as it is stored: every brace has a partner, the text
is not taken for code, and writing and reading its separators gives the same ones. -/
def Survives (written stored : Text) : Prop :=
  Balanced written ∧ written.head? ≠ some '+' ∧ Separator.expand written = stored

instance (written stored : Text) : Decidable (Survives written stored) :=
  inferInstanceAs (Decidable (_ ∧ _))

theorem readBack_of_head? {t : Text} (h : t.head? ≠ some '+') :
    readBack t = Separator.expand t := by
  rw [readBack, argumentOfBraces, if_neg h]
  rfl

theorem readBack_of_plus {t : Text} (h : t.head? = some '+') :
    readBack t = (Argument.foreign (foreignSource t)).format := by
  rw [readBack, argumentOfBraces, if_pos h]
  rfl

/-- A text that is taken for code comes back in braces. -/
theorem survives_of_readBack {written stored : Text} (hb : Balanced written)
    (hr : readBack written = stored)
    (hh : written.head? = some '+' → stored.head? ≠ some '{') : Survives written stored := by
  have plain : written.head? ≠ some '+' := by
    intro h
    apply hh h
    rw [← hr, readBack_of_plus h]
    rfl
  exact ⟨hb, plain, by rw [← hr, readBack_of_head? plain]⟩

theorem survives_subject {s : Text} (hb : Balanced s) (hr : readBack s = s) : Survives s s :=
  survives_of_readBack hb hr fun h => by simp [h]

theorem survives_action {a : Text} (hb : Balanced (Separator.collapse a))
    (hr : readBack (Separator.collapse a) = a) : Survives (Separator.collapse a) a := by
  refine survives_of_readBack hb hr fun h ha => ?_
  obtain ⟨r, rfl⟩ := List.head?_eq_some_iff.1 ha
  cases h

theorem Survives.readBack_eq {written stored : Text} (h : Survives written stored) :
    readBack written = stored := by
  rw [readBack_of_head? h.2.1, h.2.2]

/-- Code is no shortcut. -/
theorem parse?_foreign (source : Text) :
    Shortcut.parse? (Argument.foreign source).format = none := by
  have text : (Argument.foreign source).format = '{' :: '+' :: (' ' :: source ++ [' ', '}']) := by
    simp [Argument.format]
  have parts : Shortcut.parts (Argument.foreign source).format =
      ['{'] :: Shortcut.parts (' ' :: source ++ [' ', '}']) := by
    rw [text, Shortcut.parts, Text.splitAtChar, List.splitOnP_cons_eq_if_modifyHead, if_neg (by simp),
      List.splitOnP_cons_eq_if_modifyHead, if_pos (by simp)]
    rfl
  -- The closing brace is in another part than the open one, and neither is a modifier.
  obtain ⟨part, hp, hb⟩ : ∃ part ∈ Shortcut.parts (' ' :: source ++ [' ', '}']),
      '}' ∈ part.filter isBrace := by
    apply List.mem_flatMap.1
    rw [Shortcut.flatMap_parts]
    exact List.mem_filter.2 ⟨by simp, rfl⟩
  have key : part ∈ (Shortcut.parts (' ' :: source ++ [' ', '}'])).filter
      fun p => (Shortcut.modifier? p).isNone := by
    refine List.mem_filter.2 ⟨hp, ?_⟩
    cases hm : Shortcut.modifier? part with
    | none => rfl
    | some m =>
      rw [Shortcut.filter_of_modifier? hm] at hb
      simp at hb
  unfold Shortcut.parse?
  rw [parts]
  dsimp only
  rw [List.filter_cons_of_pos (by decide)]
  generalize (Shortcut.parts (' ' :: source ++ [' ', '}'])).filter _ = keys at key
  cases keys with
  | nil => simp at key
  | cons => rfl

end Script

namespace Item

/-- Every text of the item comes back from the configuration. What a shortcut is shown as may come
back as another text, as long as the same shortcut is read from it. -/
def IsKept : Item → Prop
  | ofChannel name => Survives name name
  | ofAlias a => Survives a.pattern.source a.pattern.source ∧
      Survives (Separator.collapse a.action) a.action
  | ofTrigger t => Survives t.pattern.source t.pattern.source ∧
      Survives (Separator.collapse t.action) t.action ∧
      ∀ s ∈ t.substitution, Survives (Separator.collapse s) s
  | ofKeyBinding b => Balanced b.shortcut.display ∧ b.shortcut.display.head? ≠ some '+' ∧
      Shortcut.parse? (Separator.expand b.shortcut.display) = some b.shortcut ∧
      Survives (Separator.collapse b.action) b.action

instance : DecidablePred IsKept
  | ofChannel _ => inferInstanceAs (Decidable (Survives _ _))
  | ofAlias _ => inferInstanceAs (Decidable (_ ∧ _))
  | ofTrigger t => inferInstanceAs (Decidable (Survives _ _ ∧ Survives _ _ ∧
      ∀ s ∈ t.substitution, Survives (Separator.collapse s) s))
  | ofKeyBinding _ => inferInstanceAs (Decidable (_ ∧ _ ∧ _ ∧ _))

theorem functionName_plain (i : Item) :
    ∀ c ∈ i.function.name.toList, Text.isBlank c = false ∧ isBrace c = false := by
  have plain : i.function.name.toList.all fun c => !Text.isBlank c && !isBrace c := by
    cases i with
    | ofChannel | ofAlias | ofTrigger | ofKeyBinding =>
      dsimp only [function]
      decide
  simpa using plain

theorem function_name (i : Item) : i.function.name.toList ≠ blockFunction ∧
    i.function.name.toList ≠ [] ∧ i.function.name.toList.head? ≠ some '#' ∧
    Unicode.lower i.function.name.toList = i.function.name.toList := by
  cases i with
  | ofChannel | ofAlias | ofTrigger | ofKeyBinding =>
    dsimp only [function]
    decide

theorem line_eq (i : Item) : i.line =
    '#' :: i.function.name.toList ++ writtenTexts i.written ++ writtenFlags i.flags :=
  declaration_eq i.function_name.1 _ _ _

theorem writtenFlag_of_mem (i : Item) : ∀ f ∈ i.flags.entries, IsWrittenFlag f := by
  cases i with
  | ofChannel | ofAlias | ofKeyBinding => exact fun f hf => (List.not_mem_nil hf).elim
  | ofTrigger t =>
    have shown : ∀ mute mark : Bool,
        let flags : Flags := .ofList ((if mute then [("mute".toList, true)] else []) ++
          (if mark then [("mark".toList, true)] else []))
        ∀ f ∈ flags.entries, IsWrittenFlag f := by
      decide
    exact shown t.mute t.mark

theorem isOn_flags (t : Trigger) : t.flags.isOn "mute" = t.mute ∧ t.flags.isOn "mark" = t.mark := by
  have shown : ∀ mute mark : Bool,
      let flags : Flags := .ofList ((if mute then [("mute".toList, true)] else []) ++
        (if mark then [("mark".toList, true)] else []))
      flags.isOn "mute" = mute ∧ flags.isOn "mark" = mark := by
    decide
  exact shown t.mute t.mark

theorem startsBlank_writtenFlags (flags : Flags) {r : Text} (hr : StartsBlank r) :
    StartsBlank (writtenFlags flags ++ r) :=
  startsBlank_flatMap _ flags.entries hr

theorem statement_line (i : Item) {r : Text} (hr : StartsBlank r) : statement (i.line ++ r) =
    (arguments ∅ (writtenTexts i.written ++ (writtenFlags i.flags ++ r))).map
      fun (args, flags, left) => (⟨i.function.name.toList, args, flags⟩, left) := by
  obtain ⟨-, hne, hh, hlower⟩ := i.function_name
  have rest := startsBlank_writtenTexts i.written (startsBlank_writtenFlags i.flags hr)
  have text : i.line ++ r = '#' :: (i.function.name.toList ++
      (writtenTexts i.written ++ (writtenFlags i.flags ++ r))) := by
    simp [line_eq]
  rw [text, statement_call (fun c hc => (i.functionName_plain c hc).1) hne hh rest]
  simp only [hlower]

theorem function_of_statement (i : Item) {r rest : Text} {s : Statement} (hr : StartsBlank r)
    (h : statement (i.line ++ r) = .ok (s, rest)) : s.function = i.function.name.toList := by
  rw [statement_line i hr] at h
  obtain ⟨_, -, he⟩ := map_eq_ok.1 h
  cases he
  rfl

theorem statement_line_of_balanced (i : Item) (h : ∀ t ∈ i.written, Balanced t) (r : Text) :
    statement (i.line ++ '\n' :: r) =
      .ok (⟨i.function.name.toList, i.written.map argumentOfWritten, i.flags⟩, '\n' :: r) := by
  have end_ : StartsBlank ('\n' :: r) := startsBlank_cons rfl r
  have flags : arguments ∅ (writtenFlags i.flags ++ '\n' :: r) = .ok ([], i.flags, '\n' :: r) := by
    rw [arguments_flags i.writtenFlag_of_mem end_, arguments_newline]
  rw [statement_line i end_, arguments_writtenTexts ∅ h (startsBlank_writtenFlags i.flags end_), flags]
  simp [Except.map]

/-- The texts of an item that is kept are balanced, and the item comes from them again. -/
theorem IsKept.isOf {i : Item} (h : i.IsKept) (hs : ∀ t, i = .ofTrigger t → t.substitution ≠ some []) :
    (∀ t ∈ i.written, Balanced t) ∧ i.IsOf (i.written.map readBack) i.flags := by
  cases i with
  | ofChannel name => exact ⟨by simpa [written, subject, actions] using h.1, [], by
      simp [written, subject, actions, Survives.readBack_eq h]⟩
  | ofAlias a =>
    obtain ⟨hsub, hact⟩ := h
    refine ⟨by simp [written, subject, actions, hsub.1, hact.1], [], ?_⟩
    simp [written, subject, actions, hsub.readBack_eq, hact.readBack_eq]
  | ofTrigger t =>
    obtain ⟨hsub, hact, hsubst⟩ := h
    constructor
    · simp only [written, subject, actions, List.map_cons, List.forall_mem_cons]
      refine ⟨hsub.1, hact.1, fun u hu => ?_⟩
      obtain ⟨s, hs, rfl⟩ := List.mem_map.1 hu
      exact (hsubst s (Option.mem_toList.1 hs)).1
    · refine ⟨t.substitution.toList.map fun s => readBack (Separator.collapse s), ?_, ?_, ?_⟩
      · simp [written, subject, actions, hsub.readBack_eq, hact.readBack_eq, Function.comp_def]
      · cases ht : t.substitution with
        | none => rfl
        | some s =>
          have hne : s ≠ [] := by
            rintro rfl
            exact hs t rfl ht
          simp [(hsubst s ht).readBack_eq, hne]
      · exact isOn_flags t
  | ofKeyBinding b =>
    obtain ⟨hb, hh, hp, hact⟩ := h
    rw [← readBack_of_head? hh] at hp
    refine ⟨by simp [written, subject, actions, hb, hact.1], _, [], ?_, hp⟩
    simp [written, subject, actions, hact.readBack_eq]

/-- The texts from which an item comes have the braces of those that are written. -/
theorem IsOf.filter_prefix {i : Item} {texts : List Text} {flags : Flags} (h : i.IsOf texts flags) :
    i.written.map (·.filter isBrace) <+: texts.map (·.filter isBrace) := by
  cases i with
  | ofChannel name =>
    obtain ⟨more, rfl⟩ := h
    exact ⟨more.map (·.filter isBrace), rfl⟩
  | ofAlias a =>
    obtain ⟨more, rfl⟩ := h
    exact ⟨more.map (·.filter isBrace), by
      simp [written, subject, actions, Separator.filter_collapse]⟩
  | ofTrigger t =>
    obtain ⟨more, rfl, hs, -⟩ := h
    have rest : (t.substitution.toList.map fun s => s.filter isBrace) <+:
        more.map (·.filter isBrace) := by
      rw [← hs]
      cases more with
      | nil => simp
      | cons s more => by_cases he : s = [] <;> simp [he, Option.filter_some]
    simpa [written, subject, actions, Separator.filter_collapse, Function.comp_def] using rest
  | ofKeyBinding b =>
    obtain ⟨text, more, rfl, hp⟩ := h
    exact ⟨more.map (·.filter isBrace), by
      simp [written, subject, actions, Separator.filter_collapse, Shortcut.filter_display hp]⟩

/-- If the line of an item declares the item, then each of its texts has survived. -/
theorem isKept_of_statement {i : Item} {s : Statement} {r rest : Text} (hr : StartsBlank r)
    (h : statement (i.line ++ r) = .ok (s, rest))
    (hi : i.IsOf (s.arguments.map Argument.literal) s.flags) : i.IsKept := by
  have hr' := startsBlank_writtenFlags i.flags hr
  rw [statement_line i hr] at h
  obtain ⟨⟨args, flags, left⟩, ha, h⟩ := map_eq_ok.1 h
  cases h
  dsimp only at hi
  have balanced : ∀ t ∈ i.written, Balanced t := by
    refine balanced_of_arguments_writtenTexts hr' ha ?_
    simpa [Function.comp_def] using hi.filter_prefix
  rw [arguments_writtenTexts ∅ balanced hr'] at ha
  obtain ⟨⟨more, e⟩, -, ha⟩ := map_eq_ok.1 ha
  cases ha
  have texts : (i.written.map argumentOfWritten ++ more).map Argument.literal =
      i.written.map readBack ++ more.map Argument.literal := by
    simp [Function.comp_def]
  rw [texts] at hi
  cases i with
  | ofChannel name =>
    obtain ⟨_, hi⟩ := hi
    exact survives_subject (balanced name (by simp [written, subject])) (List.cons.inj hi).1
  | ofAlias a =>
    obtain ⟨_, hi⟩ := hi
    obtain ⟨hs, hi⟩ := List.cons.inj hi
    simp only [written, subject, actions, List.map_cons, List.forall_mem_cons] at balanced
    exact ⟨survives_subject balanced.1 hs, survives_action balanced.2.1 (List.cons.inj hi).1⟩
  | ofTrigger t =>
    obtain ⟨_, hi, hsub, -⟩ := hi
    obtain ⟨hs, hi⟩ := List.cons.inj hi
    obtain ⟨ha, hi⟩ := List.cons.inj hi
    simp only [written, subject, actions, List.map_cons, List.forall_mem_cons] at balanced
    refine ⟨survives_subject balanced.1 hs, survives_action balanced.2.1 ha, fun u hu => ?_⟩
    have hu' : t.substitution = some u := hu
    refine survives_action (balanced.2.2 _ (by simp [hu'])) ?_
    rw [← hi, hu'] at hsub
    simpa using (Option.filter_eq_some_iff.1 hsub).1
  | ofKeyBinding b =>
    obtain ⟨text, _, hi, hp⟩ := hi
    obtain ⟨hs, hi⟩ := List.cons.inj hi
    simp only [written, subject, actions, List.map_cons, List.forall_mem_cons] at balanced
    have shown : readBack b.shortcut.display = text := hs
    rw [← shown] at hp
    have plain : b.shortcut.display.head? ≠ some '+' := by
      intro h
      rw [readBack_of_plus h, parse?_foreign] at hp
      cases hp
    exact ⟨balanced.1, plain, by rw [← readBack_of_head? plain, hp],
      survives_action balanced.2.1 (List.cons.inj hi).1⟩

end Item
end MudClient
