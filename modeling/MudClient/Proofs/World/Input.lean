import MudClient.Proofs.World.Expansion
import MudClient.Proofs.World.Return
import MudClient.Proofs.World.Stacking
/-! Commands in their order. Each command of a text is handled in the state that the ones before it
have left: the first alias that matches it consumes it, and without one it goes to the server. So two
lines that are sent together do what they do one after the other. -/
namespace MudClient

open Script (Effect Nanos Chance)

section Commands

variable {d t a b p : Text} {c : Char} {ps : List Text}

theorem join_cons_of_ne_nil (d p : Text) (h : ps ≠ []) :
    Text.join d (p :: ps) = p ++ d ++ Text.join d ps := by
  obtain ⟨q, qs, rfl⟩ := List.exists_cons_of_ne_nil h
  simp [Text.join, List.intercalate]

theorem join_modifyHead (d t : Text) (h : ps ≠ []) :
    Text.join d (ps.modifyHead (t ++ ·)) = t ++ Text.join d ps := by
  obtain ⟨q, qs, rfl⟩ := List.exists_cons_of_ne_nil h
  cases qs with
  | nil => simp [Text.join, List.intercalate]
  | cons r rs => simp [join_cons_of_ne_nil d _ (List.cons_ne_nil r rs)]

/-- Nothing of a line is lost but the delimiters at which it was cut. -/
theorem join_splitStacked (d t : Text) : Text.join d (splitStacked d t) = t := by
  by_cases hd : d = []
  · subst hd
    simp [splitStacked, Text.join, List.intercalate]
  have rest := fun r => splitStacked_ne_nil d r
  induction t using splitStacked_induction hd with
  | nil =>
    rw [splitStacked_nil]
    rfl
  | delimiter r ih =>
    rw [splitStacked_append hd, join_cons_of_ne_nil d _ (rest r), ih, List.nil_append]
  | escaped r hp ih =>
    rw [splitStacked_escaped hd hp, join_modifyHead d _ (rest r), ih, List.cons_append]
  | cons c r hp hc ih =>
    have joined := join_modifyHead d [c] (rest r)
    rw [ih] at joined
    rw [splitStacked_cons hd hp hc]
    exact joined

theorem mem_join (hp : p ∈ ps) (hc : c ∈ p) : c ∈ Text.join d ps := by
  induction ps with
  | nil => cases hp
  | cons q qs ih =>
    by_cases hq : qs = []
    · subst hq
      cases List.mem_singleton.1 hp
      simpa [Text.join, List.intercalate] using hc
    · rw [join_cons_of_ne_nil d q hq]
      rcases List.mem_cons.1 hp with rfl | hp
      · simp [hc]
      · simp [ih hp]

/-- The commands that are seen in a text, without the empty one that stands for none. -/
def seenCommands (d t : Text) : List Text :=
  ((((Text.splitAtChar '\n' t).map (Text.dropEndWhile (· == '\r'))).flatMap
    (splitStacked d)).filter fun c => !Text.isAllBlank c).map Script.Separator.unescape

theorem splitCommands_of_ne_nil (h : seenCommands d t ≠ []) :
    splitCommands d t = seenCommands d t := by
  obtain ⟨c, cs, hc⟩ := List.exists_cons_of_ne_nil h
  unfold splitCommands
  dsimp only
  rw [show List.map _ _ = c :: cs from hc, hc]

theorem seenCommands_append (d a b : Text) :
    seenCommands d (a ++ '\n' :: b) = seenCommands d a ++ seenCommands d b := by
  have lines : Text.splitAtChar '\n' (a ++ '\n' :: b) =
      Text.splitAtChar '\n' a ++ Text.splitAtChar '\n' b := List.splitOnP_append_cons a b rfl
  simp [seenCommands, lines]

/-- The text has a command that is not blank. -/
def HasCommand (d t : Text) : Prop := ∃ c ∈ splitCommands d t, Text.isAllBlank c = false

theorem HasCommand.seen (h : HasCommand d t) : seenCommands d t ≠ [] := by
  intro none
  obtain ⟨c, hc, hb⟩ := h
  have empty : splitCommands d t = [[]] := by
    unfold splitCommands
    dsimp only
    rw [show List.map _ _ = [] from none]
  rw [empty, List.mem_singleton] at hc
  subst hc
  cases hb

theorem splitCommands_append (ha : HasCommand d a) (hb : HasCommand d b) :
    splitCommands d (a ++ '\n' :: b) = splitCommands d a ++ splitCommands d b := by
  have seen : seenCommands d (a ++ '\n' :: b) ≠ [] := by
    rw [seenCommands_append]
    exact List.append_ne_nil_of_left_ne_nil ha.seen _
  rw [splitCommands_of_ne_nil seen, splitCommands_of_ne_nil ha.seen,
    splitCommands_of_ne_nil hb.seen, seenCommands_append]

theorem exists_visible_of_seenCommands (h : seenCommands d t ≠ []) :
    ∃ c ∈ t, Text.isBlank c = false := by
  unfold seenCommands at h
  obtain ⟨_, hm⟩ := List.exists_mem_of_ne_nil _ h
  obtain ⟨piece, hp, rfl⟩ := List.mem_map.1 hm
  obtain ⟨hp, visible⟩ := List.mem_filter.1 hp
  obtain ⟨trimmed, ht, hp⟩ := List.mem_flatMap.1 hp
  obtain ⟨line, hl, rfl⟩ := List.mem_map.1 ht
  obtain ⟨c, hc, hb⟩ : ∃ c ∈ piece, Text.isBlank c = false := by
    simpa [Text.isAllBlank] using visible
  have inLine : c ∈ line.reverse := by
    have inTrimmed : c ∈ Text.join d _ := mem_join hp hc
    rw [join_splitStacked, Text.dropEndWhile, List.mem_reverse] at inTrimmed
    exact (List.dropWhile_suffix _).subset inTrimmed
  exact ⟨c, Text.mem_of_mem_splitAtChar hl (List.mem_reverse.1 inLine), hb⟩

/-- A text with a command is not blank. -/
theorem HasCommand.visible (h : HasCommand d t) : Text.isAllBlank t = false := by
  simpa [Text.isAllBlank] using exists_visible_of_seenCommands h.seen

end Commands

namespace World

variable {w u v : World} {command : Text} {a : Alias} {captures : Captures} {now : Nanos}
variable {levels : Nat}

/-- An alias is passed over: its action is being carried out, or it does not match. -/
def PassesOver (w : World) (command : Text) (a : Alias) : Prop :=
  a.pattern.source ∈ w.expanding ∨ a.pattern.captures? command = none

/-- The first alias in the order of the list that is not passed over, with its match. -/
structure IsFirst (w : World) (command : Text) (a : Alias) (captures : Captures) : Prop where
  exists_before : ∃ before after, w.aliases.items = before ++ a :: after ∧
    ∀ b ∈ before, w.PassesOver command b
  notEntered : a.pattern.source ∉ w.expanding
  matched : a.pattern.captures? command = some captures

theorem passesOver_iff : w.PassesOver command a ↔
    (if w.expanding.contains a.pattern.source then none
      else (a.pattern.captures? command).map (a, ·)) = none := by
  unfold PassesOver
  by_cases h : a.pattern.source ∈ w.expanding <;> simp [h]

theorem answer?_eq_none : w.aliases.answer? command w.expanding = none ↔
    ∀ a ∈ w.aliases.items, w.PassesOver command a := by
  simp only [Roster.answer?, List.findSome?_eq_none_iff, passesOver_iff]

theorem answer?_eq_some : w.aliases.answer? command w.expanding = some (a, captures) ↔
    w.IsFirst command a captures := by
  unfold Roster.answer?
  rw [List.findSome?_eq_some_iff]
  constructor
  · rintro ⟨before, b, after, items, hb, passed⟩
    split at hb
    · cases hb
    · rename_i entered
      obtain ⟨found, matched, hf⟩ := Option.map_eq_some_iff.1 hb
      cases hf
      exact ⟨⟨before, after, items, fun b hb => passesOver_iff.2 (passed b hb)⟩,
        by simpa using entered, matched⟩
  · rintro ⟨⟨before, after, items, passed⟩, notEntered, matched⟩
    exact ⟨before, a, after, items, by simp [notEntered, matched],
      fun b hb => passesOver_iff.1 (passed b hb)⟩

section

variable [Lua] [Chance]

/-- How a command is handled when so many more aliases may be entered: it goes to the client, or the
first alias consumes it, whatever becomes of its action. -/
inductive Handles (now : Nanos) (levels : Nat) (w : World) (command : Text) : World → Prop
  | written : (∀ a ∈ w.aliases.items, w.PassesOver command a) → w.client = some .direct →
      Handles now levels w command { w with output := w.output ++ [.write command] }
  | mailed : (∀ a ∈ w.aliases.items, w.PassesOver command a) → w.client = some .mailbox →
      Handles now levels w command { w with mailbox := w.mailbox.map (· ++ [command]) }
  | dropped : (∀ a ∈ w.aliases.items, w.PassesOver command a) → w.client = none →
      Handles now levels w command w
  | consumed {a : Alias} {captures : Captures} {x : Execution} {v : World} :
      w.IsFirst command a captures →
      @Engine.execute _ w.chance w.engine a.action (some captures) a.label now = .ok x →
      applyEffects (World.send now levels)
        { w.ran x with expanding := a.pattern.source :: w.expanding } x.effects = .ok v →
      Handles now levels w command ({ v with expanding := w.expanding }.settle x.result)

/-- Commands are handled one after the other, each in the state that the last one has left. -/
inductive HandlesAll (now : Nanos) (levels : Nat) : World → List Text → World → Prop
  | nil {w : World} : HandlesAll now levels w [] w
  | cons {w u v : World} {command : Text} {commands : List Text} :
      Handles now levels w command u → HandlesAll now levels u commands v →
      HandlesAll now levels w (command :: commands) v

theorem expanding_of_applyEffects {effects : List Effect}
    (h : applyEffects (World.send now levels) w effects = .ok v) : v.expanding = w.expanding :=
  (respects_grows.foldlM
    (fun _ _ _ _ => respects_grows.applyEffect (respects_grows.send now levels)) h).expanding

theorem handleCommand_eq_ok :
    handleCommand (World.send now levels) now w command = .ok v ↔
      Handles now levels w command v := by
  unfold handleCommand
  constructor
  · intro h
    split at h
    · rename_i a captures ha
      unfold expand at h
      obtain ⟨x, hx, h⟩ := bind_eq_ok.1 h
      obtain ⟨after, hafter, h⟩ := bind_eq_ok.1 h
      cases h
      rw [expanding_of_applyEffects hafter]
      exact .consumed (answer?_eq_some.1 ha) hx hafter
    · rename_i ha
      cases h
      have passed := answer?_eq_none.1 ha
      unfold transmit
      split
      · exact .written passed ‹_›
      · exact .mailed passed ‹_›
      · exact .dropped passed ‹_›
  · intro h
    cases h with
    | written passed bound | mailed passed bound | dropped passed bound =>
      simp [answer?_eq_none.2 passed, transmit, bound, emit]
    | @consumed a captures x after first hx hafter =>
      rw [answer?_eq_some.2 first]
      refine bind_eq_ok.2 ⟨x, hx, bind_eq_ok.2 ⟨after, hafter, ?_⟩⟩
      rw [expanding_of_applyEffects hafter]
      rfl

theorem foldlM_eq_ok {commands : List Text} :
    commands.foldlM (handleCommand (World.send now levels) now) w = .ok v ↔
      HandlesAll now levels w commands v := by
  induction commands generalizing w with
  | nil =>
    constructor
    · intro h
      cases h
      exact .nil
    · intro h
      cases h
      rfl
  | cons command commands ih =>
    rw [List.foldlM_cons, bind_eq_ok]
    constructor
    · rintro ⟨u, hu, h⟩
      exact .cons (handleCommand_eq_ok.1 hu) (ih.1 h)
    · intro h
      cases h with
      | cons hu h => exact ⟨_, handleCommand_eq_ok.2 hu, ih.2 h⟩

theorem handles_of_unparsable {error : ScriptError} (first : w.IsFirst command a captures)
    (unparsable : (@Script.compile w.chance w.engine.registry
      (some (w.engine.applyCaptures captures).locals) a.action).run = .ok (.error error)) :
    Handles now levels w command v ↔
      v = { w with engine := w.engine.applyCaptures captures, started := w.started + 1 } := by
  have fired : @Alias.fire _ w.chance a captures w.engine now =
      .ok ⟨w.engine.applyCaptures captures, [], .error error⟩ := by
    unfold Alias.fire Engine.execute Engine.start
    exact bind_eq_ok.2 ⟨_, unparsable, rfl⟩
  rw [← handleCommand_eq_ok, handleCommand, answer?_eq_some.2 first]
  have expanded : w.expand (World.send now levels) now a captures =
      .ok { w with engine := w.engine.applyCaptures captures, started := w.started + 1 } :=
    bind_eq_ok.2 ⟨_, fired, rfl⟩
  dsimp only
  rw [expanded, Except.ok.injEq, eq_comm]

/-- No script changes the settings. -/
theorem respects_settings : Respects (fun _ => True) fun w v => v.settings = w.settings where
  refl _ := rfl
  trans h h' := h'.trans h
  transmit w command := by
    unfold World.transmit
    split <;> rfl
  display _ _ _ := rfl
  wait _ _ := rfl
  reset _ := rfl
  effect {w v send e} hn h := by
    cases e with
    | send text => exact absurd rfl (hn text)
    | _ =>
      cases h
      rfl
  run {w v now job x} _ _ h := by
    have same : (job.ran w x).settings = w.settings := by cases job <;> rfl
    unfold World.settle
    split <;> exact h.trans same
  enter _ h := by
    unfold World.settle
    split <;> exact h

theorem handleInput_of_hasCommand {t : Text} (h : HasCommand w.settings.commandStacking t) :
    w.handleInput t now = (splitCommands w.settings.commandStacking t).foldlM
      (handleCommand (World.send now maxDepth) now) w := by
  unfold handleInput
  rw [h.visible]
  rfl

/-- Two lines with commands do together what they do one after the other. -/
theorem handleInput_append {a b : Text} (ha : HasCommand w.settings.commandStacking a)
    (hb : HasCommand w.settings.commandStacking b) :
    w.handleInput (a ++ '\n' :: b) now = w.handleInput a now >>= (·.handleInput b now) := by
  have commands := splitCommands_append ha hb
  have both : HasCommand w.settings.commandStacking (a ++ '\n' :: b) := by
    obtain ⟨c, hc, visible⟩ := ha
    exact ⟨c, by simp [commands, hc], visible⟩
  rw [handleInput_of_hasCommand both, handleInput_of_hasCommand ha, commands, List.foldlM_append]
  cases hv : (splitCommands w.settings.commandStacking a).foldlM
      (handleCommand (World.send now maxDepth) now) w with
  | error crash => rfl
  | ok v =>
    have settings : v.settings = w.settings := respects_settings.send now (maxDepth + 1) w a v hv
    show _ = v.handleInput b now
    rw [handleInput_of_hasCommand (settings ▸ hb), settings]
    rfl

/-- The commands of each text that is sent are handled one after the other, unless a script comes to
what stops the client: then the commands after it are not handled. An action that cannot be read
still consumes its command, and two lines do together what they do one after the other. -/
theorem handlesAll_of_reachable (hw : w.Reachable) :
    (∀ s levels u text, Makes w s (.send (levels + 1) u text) →
      ((∃ v, World.send s.time (levels + 1) u text = .ok v) ↔ ∀ left v job,
        Relation.ReflTransGen (Calls s.time) (.send (levels + 1) u text) (.script left v job) →
          job.Fits v s.time) ∧
      ∀ v, World.send s.time (levels + 1) u text = .ok v ↔
        HandlesAll s.time levels u (splitCommands u.settings.commandStacking text) v) ∧
    (∀ now levels u command a captures error v, IsFirst u command a captures →
      (@Script.compile u.chance u.engine.registry
        (some (u.engine.applyCaptures captures).locals) a.action).run = .ok (.error error) →
      (Handles now levels u command v ↔
        v = { u with engine := u.engine.applyCaptures captures, started := u.started + 1 })) ∧
    ∀ a b now, HasCommand w.settings.commandStacking a → HasCommand w.settings.commandStacking b →
      w.handleInput (a ++ '\n' :: b) now = w.handleInput a now >>= (·.handleInput b now) := by
  refine ⟨fun s levels u text made => ⟨?_, fun v => foldlM_eq_ok⟩,
    fun _ _ _ _ _ _ _ _ => handles_of_unparsable, fun _ _ _ => handleInput_append⟩
  refine (returns_iff (.send (levels + 1) u text)).trans ?_
  refine forall₃_congr fun left v job => forall_congr' fun called => ?_
  obtain ⟨first, begun, calls⟩ := made
  obtain ⟨hv, hj⟩ := isCompiled_of_makes hw.isCompiled ⟨first, begun, calls.trans called⟩
  exact Job.returns_run (hv.registry ▸ hj)

end

/-- A configuration with an alias whose action declares the next one. -/
def preparing : Text := "#alias first \x7b#alias second done\x7d".toList

/-- The first command has an alias declared that answers the second. -/
theorem handlesAll_preparing : ∃ w,
    ((create default).bind .direct).loadConfig preparing 0 = .ok (w, .ok ()) ∧ w.Reachable ∧
    w.handleInput "first\nsecond".toList 0 =
      w.handleInput "first".toList 0 >>= (·.handleInput "second".toList 0) ∧
    ∃ v, HandlesAll 0 maxDepth w ["first".toList, "second".toList] v ∧
      v.output = [.write "done".toList] := by
  have runs : (((create default).bind .direct).loadConfig preparing 0).toOption.elim false
      (fun r => r.2.isOk && (decide (r.1.settings.commandStacking = []) &&
        (World.send 0 (maxDepth + 1) r.1 "first\nsecond".toList).toOption.elim false
          fun v => decide (v.output = [.write "done".toList]))) = true := by
    decide +kernel
  cases loaded : ((create default).bind .direct).loadConfig preparing 0 with
  | error crash => rw [loaded] at runs; cases runs
  | ok r =>
    obtain ⟨w, error | ⟨⟨⟩⟩⟩ := r
    case error => rw [loaded] at runs; cases runs
    rw [loaded] at runs
    obtain ⟨stacking, runs⟩ := Bool.and_eq_true_iff.1 runs
    have reachable : w.Reachable := .loadConfig (.fresh ⟨rfl, rfl, rfl, rfl⟩) loaded
    have stacking : w.settings.commandStacking = [] := of_decide_eq_true stacking
    cases sent : World.send 0 (maxDepth + 1) w "first\nsecond".toList with
    | error crash => dsimp only at runs; rw [sent] at runs; cases runs
    | ok v =>
      dsimp only at runs
      rw [sent] at runs
      obtain ⟨commands, -, together⟩ := handlesAll_of_reachable reachable
      have first : HasCommand w.settings.commandStacking "first".toList :=
        ⟨"first".toList, by rw [stacking]; decide, rfl⟩
      have second : HasCommand w.settings.commandStacking "second".toList :=
        ⟨"second".toList, by rw [stacking]; decide, rfl⟩
      have handled := ((commands (.input "first\nsecond".toList 0) maxDepth w _
        ⟨_, .input rfl, .refl⟩).2 v).1 sent
      rw [stacking] at handled
      exact ⟨w, rfl, reachable, together _ _ 0 first second, v, handled,
        of_decide_eq_true runs⟩

/-- The action of the first command pauses until after the end of the clock. -/
theorem not_handlesAll_of_overflow : ¬ ∀ w now text, Reachable w →
    ∃ v, HandlesAll now maxDepth w (splitCommands w.settings.commandStacking text) v := by
  intro handles
  have crashes : (loaded? "#alias boom \x7b#pause 10000000000000000000\x7d".toList).elim false
      (fun w => !(World.send 0 (maxDepth + 1) w "boom\nlook".toList).isOk) = true := by
    decide +kernel
  generalize hl : loaded? "#alias boom \x7b#pause 10000000000000000000\x7d".toList = found
    at crashes
  cases found with
  | none => cases crashes
  | some w =>
    obtain ⟨v, hv⟩ := handles w 0 "boom\nlook".toList (reachable_of_loaded? hl)
    have sent : World.send 0 (maxDepth + 1) w "boom\nlook".toList = .ok v := foldlM_eq_ok.2 hv
    dsimp only [Option.elim] at crashes
    rw [sent] at crashes
    cases crashes

end World
end MudClient
