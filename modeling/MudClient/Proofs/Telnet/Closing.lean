import MudClient.Proofs.Telnet.HandedOut
/-! What a caller has read when the server closes. Reading ends, and each chunk gave its own clean
text; together they are the clean text of the stream exactly if no sequence was cut behind the limit
and what is still held back is the beginning of a sequence. -/
namespace MudClient.Ansi

/-- A sequence that has begun. -/
inductive IsUnfinished : Text → Prop where
  | escape : IsUnfinished [esc]
  | control {params inters : Text} (hp : ∀ c ∈ params, isParameter c)
      (hi : ∀ c ∈ inters, isIntermediate c) : IsUnfinished (esc :: '[' :: (params ++ inters))

/-- A beginning of a sequence that is not the whole of it. -/
theorem isUnfinished_iff {t : Text} :
    IsUnfinished t ↔ t ≠ [] ∧ ∃ s, s ≠ [] ∧ IsSequence (t ++ s) := by
  constructor
  · intro h
    cases h with
    | escape => exact ⟨List.cons_ne_nil _ _, ['@'], List.cons_ne_nil _ _, .short (by decide)⟩
    | control hp hi =>
      have whole := IsSequence.control hp hi (by decide : isFinal 'm')
      exact ⟨List.cons_ne_nil _ _, ['m'], List.cons_ne_nil _ _, by simpa using whole⟩
  · rintro ⟨ht, s, hs, whole⟩
    have proper : t ≠ t ++ s := by simpa using hs
    have start : t <+: t ++ s := List.prefix_append t s
    generalize t ++ s = w at whole proper start
    cases whole with
    | @control params inters final hp hi hf =>
      have text : esc :: '[' :: (params ++ (inters ++ [final])) =
          (esc :: '[' :: (params ++ inters)) ++ [final] := by simp
      rw [text] at start proper
      have shorter := (List.prefix_concat_iff.1 start).resolve_left proper
      obtain ⟨t, rfl, behind⟩ := (List.prefix_cons_iff.1 shorter).resolve_left ht
      rcases List.prefix_cons_iff.1 behind with rfl | ⟨t, rfl, u, inner⟩
      · exact .escape
      · rcases List.append_eq_append_iff.1 inner with ⟨v, rfl, -⟩ | ⟨v, rfl, rfl⟩
        · have part : ∀ c ∈ t, isParameter c := fun c hc => hp c (List.mem_append_left v hc)
          simpa using IsUnfinished.control part (List.forall_mem_nil _)
        · exact .control hp fun c hc => hi c (List.mem_append_left u hc)
    | @short d hd =>
      have text : [esc, d] = [esc] ++ [d] := rfl
      rw [text] at start proper
      have shorter := (List.prefix_concat_iff.1 start).resolve_left proper
      obtain ⟨t, rfl, behind⟩ := (List.prefix_cons_iff.1 shorter).resolve_left ht
      rw [List.prefix_nil.1 behind]
      exact .escape

/-- This is the clean form of a text, but for a sequence that has begun at its end. -/
def IsCleanFormOf (given t : Text) : Prop :=
  ∃ tail, clean t = given ++ tail ∧ (tail = [] ∨ IsUnfinished tail)

/-- Tells sequences from what has only begun. -/
def weight : Text → Nat
  | [] => 0
  | c :: t => (if c = '[' then 1 else if isFinal c then 2 else 0) + weight t

@[simp] theorem weight_append (a b : Text) : weight (a ++ b) = weight a + weight b := by
  induction a with
  | nil => simp [weight]
  | cons c a ih => simp [weight, ih, Nat.add_assoc]

theorem IsSequence.le_weight {s : Text} (h : IsSequence s) : 2 ≤ weight s := by
  cases h with
  | @control params inters final hp hi hf =>
    have bracket : 1 ≤ weight ['['] := by decide
    have last : 1 ≤ weight [final] := by
      simp only [weight, hf, if_true]
      split <;> decide
    have text : esc :: '[' :: (params ++ (inters ++ [final])) =
        [esc] ++ ['['] ++ params ++ inters ++ [final] := by simp
    simp only [text, weight_append]
    omega
  | @short c hc =>
    have code := isShort_iff.1 hc
    have bracket : c ≠ '[' := by
      rintro rfl
      exact absurd hc (by decide)
    have final : isFinal c := isFinal_iff.2 (by omega)
    simp [weight, bracket, final]

theorem weight_eq_zero {t : Text} (h : ∀ c ∈ t, c.toNat < 0x40) : weight t = 0 := by
  induction t with
  | nil => rfl
  | cons c t ih =>
    obtain ⟨low, rest⟩ := List.forall_mem_cons.1 h
    have bracket : c ≠ '[' := by
      rintro rfl
      exact absurd low (by decide)
    have final : ¬ isFinal c := by
      rw [isFinal_iff]
      omega
    simp [weight, bracket, final, ih rest]

theorem IsUnfinished.weight_le {t : Text} (h : IsUnfinished t) : weight t ≤ 1 := by
  cases h with
  | escape => decide
  | @control params inters hp hi =>
    have low : weight (params ++ inters) = 0 := by
      refine weight_eq_zero fun c hc => ?_
      rcases List.mem_append.1 hc with hc | hc
      · have := isParameter_iff.1 (hp c hc)
        omega
      · have := isIntermediate_iff.1 (hi c hc)
        omega
    have text : esc :: '[' :: (params ++ inters) = [esc, '['] ++ (params ++ inters) := rfl
    rw [text, weight_append, low]
    decide

theorem isApart_escape (before more : Text) : IsApart before (esc :: more) := by
  intro _ after _ hd
  exact dropSequence?_append_escape hd more

/-- A sequence between two texts is left if they are cleaned one by one, and only then. -/
theorem exists_of_not_isApart {a b : Text} (h : ¬ IsApart a b) : ∃ before s rest, IsSequence s ∧
    clean a ++ clean b = before ++ s ++ rest ∧ clean (a ++ b) = before ++ rest := by
  simp only [IsApart, not_forall] at h
  obtain ⟨before, after, rfl, hn, hd⟩ := h
  obtain ⟨rest, hd⟩ := Option.ne_none_iff_exists'.1 hd
  obtain ⟨s, -, hs, rfl⟩ := exists_of_dropSequence?_append hn hd
  have begun : clean (esc :: after) = esc :: after := by
    have printable : ∀ c ∈ after, 0x20 ≤ c.toNat :=
      fun c hc => (hs.printable (List.mem_append_left s hc)).1
    have left := clean_append_of_forall printable []
    rw [List.append_nil] at left
    rw [clean_of_escape hn, left]
    simp [clean, strip]
  have ended : clean (s ++ rest) = s ++ clean rest :=
    clean_append_of_forall (fun c hc => (hs.printable (List.mem_append_right after hc)).1) rest
  refine ⟨clean before, esc :: (after ++ s), clean rest, hs, ?_, ?_⟩
  · rw [(isApart_escape before after).clean_append, begun, ended]
    simp
  · have text : before ++ esc :: after ++ (s ++ rest) = before ++ esc :: (after ++ (s ++ rest)) := by
      simp
    rw [text, (isApart_escape before _).clean_append, clean_of_sequence hd]

end MudClient.Ansi

namespace MudClient.Telnet.Connection

open Ansi

/-- These are the texts that reading gives before it gives nothing. -/
def ReadsToEnd (c : Connection) (texts : List Text) : Prop :=
  (readTexts (texts.length + 1) c).1 = texts.map (fun t => .ok (some t)) ++ [.ok none]

theorem readsToEnd_nil {c : Connection} : c.ReadsToEnd [] ↔ c.readText.1 = .ok none := by
  simp [ReadsToEnd, readTexts]

theorem readsToEnd_cons {c : Connection} {t : Text} {texts : List Text} :
    c.ReadsToEnd (t :: texts) ↔ c.readText.1 = .ok (some t) ∧ c.readText.2.ReadsToEnd texts := by
  rw [ReadsToEnd, List.length_cons, readTexts, List.map_cons, List.cons_append, List.cons_eq_cons]
  rfl

theorem ReadsToEnd.unique {c : Connection} {a b : List Text} (ha : c.ReadsToEnd a)
    (hb : c.ReadsToEnd b) : a = b := by
  induction a generalizing c b with
  | nil =>
    cases b with
    | nil => rfl
    | cons u b => cases (readsToEnd_nil.1 ha).symm.trans (readsToEnd_cons.1 hb).1
  | cons t a ih =>
    obtain ⟨first, rest⟩ := readsToEnd_cons.1 ha
    cases b with
    | nil => cases first.symm.trans (readsToEnd_nil.1 hb)
    | cons u b =>
      obtain ⟨first', rest'⟩ := readsToEnd_cons.1 hb
      cases first.symm.trans first'
      rw [ih rest rest']

/-- What is held back of these bytes. -/
def held (e : Encoding) (bytes : Bytes) : Text := (splitPending (decoded e bytes)).2

/-- The clean text of each chunk that comes after these bytes. -/
def cleanPieces (e : Encoding) : Bytes → List Bytes → Text
  | _, [] => []
  | bytes, chunk :: chunks =>
    clean (releasedAfter e bytes chunk) ++ cleanPieces e (bytes ++ chunk) chunks

variable {e : Encoding} {bytes : Bytes} {c : Connection}

/-- The line that is not complete is read at the end, and nothing after it. -/
theorem readsToEnd_of_ended (h : c.link.incoming = []) :
    ∃ texts, c.ReadsToEnd texts ∧ texts.flatten = c.partialLine := by
  have ended (d : Connection) (hd : d.link.incoming = []) :
      d.readText = (.ok d.takePartial.1, d.takePartial.2) := by
    unfold readText Link.read
    rw [hd]
  by_cases hp : c.partialLine = []
  · refine ⟨[], readsToEnd_nil.2 ?_, hp.symm⟩
    simp [ended c h, takePartial, hp]
  · have taken : c.takePartial = (some c.partialLine, { c with partialLine := [] }) := by
      unfold takePartial
      rw [if_neg (by simpa using hp)]
    have last : c.readText = (.ok (some c.partialLine), { c with partialLine := [] }) := by
      rw [ended c h, taken]
    refine ⟨[c.partialLine], readsToEnd_cons.2 ⟨by rw [last], readsToEnd_nil.2 ?_⟩, by simp⟩
    rw [last, ended { c with partialLine := [] } h]
    rfl

/-- Reading comes to the end of the stream, and it gives the clean text of every chunk. -/
theorem Fed.exists_readsToEnd {chunks : List Bytes} (h : c.Fed e bytes)
    (hl : c.link.incoming = chunks.map .chunk) (hf : Fits c.bufferSize chunks) :
    ∃ texts, c.ReadsToEnd texts ∧ texts.flatten = c.partialLine ++ cleanPieces e bytes chunks := by
  induction chunks generalizing c bytes with
  | nil =>
    obtain ⟨texts, reads, flat⟩ := readsToEnd_of_ended hl
    exact ⟨texts, reads, by rw [flat, cleanPieces, List.append_nil]⟩
  | cons chunk chunks ih =>
    obtain ⟨⟨hn, hlen⟩, hf⟩ := List.forall_mem_cons.1 hf
    have read := readText_eq hl hn hlen
    have start : ({ c with link := { c.link with incoming := chunks.map .chunk } } :
        Connection).Fed e bytes := { h with }
    obtain ⟨texts, reads, flat⟩ := ih (start.receive chunk) (by rw [link_receive])
      (by rw [bufferSize_receive]; exact hf)
    have lines := cutLines_append (parse ((parse bytes).left ++ chunk)).events
      (c.partialLine ++ clean (releasedAfter e bytes chunk))
    rw [← start.receive_texts chunk] at lines
    refine ⟨_ :: texts, readsToEnd_cons.2 ⟨congrArg Prod.fst read, ?_⟩, ?_⟩
    · rw [read]
      exact reads
    · rw [List.flatten_cons, flat, ← List.append_assoc, lines, cleanPieces, List.append_assoc]

theorem cleanPieces_of_isUncut {chunks : List Bytes} (h : IsUncut e (bytes ++ chunks.flatten)) :
    clean (released e bytes) ++ cleanPieces e bytes chunks =
      clean (released e (bytes ++ chunks.flatten)) := by
  induction chunks generalizing bytes with
  | nil => simp [cleanPieces]
  | cons chunk chunks ih =>
    rw [List.flatten_cons, ← List.append_assoc] at h ⊢
    have apart := h.of_append bytes chunk rfl
    rw [← ih h, released_append, apart.clean_append, cleanPieces, List.append_assoc]

/-- What is held back begins with an escape character, so no sequence reaches into it. -/
theorem clean_decoded (e : Encoding) (bytes : Bytes) :
    clean (decoded e bytes) = clean (released e bytes) ++ clean (held e bytes) := by
  have whole : decoded e bytes = released e bytes ++ held e bytes :=
    (splitPending_fst_append_snd _).symm
  rcases splitPending_snd_cases (decoded e bytes) with ⟨none, -⟩ | ⟨after, some⟩
  · have none : held e bytes = [] := none
    rw [whole, none]
    simp [clean, strip]
  · have some : held e bytes = esc :: after := some
    rw [whole, some]
    exact (isApart_escape _ after).clean_append

theorem clean_nil : clean [] = [] := by simp [clean, strip]

theorem held_eq_nil_of_clean (h : clean (held e bytes) = []) : held e bytes = [] := by
  unfold held at h ⊢
  rcases escape_cases (decoded e bytes) with hn | ⟨before, after, text, ha⟩
  · rw [splitPending_of_not_mem hn]
  · rw [text, splitPending_append_escape before ha] at h ⊢
    split at h
    · rename_i waits
      rw [clean_of_escape (mayContinue_eq_true.1 waits).1] at h
      cases h
    · rename_i goes
      rw [if_neg goes]

theorem releasedAfter_start (e : Encoding) (bytes : Bytes) :
    releasedAfter e [] bytes = released e bytes := by
  have whole := released_append e [] bytes
  rw [released_nil, List.nil_append, List.nil_append] at whole
  exact whole.symm

/-- Read at once, a stream leaves what is held back at its end. -/
theorem exists_readsToEnd_once (e : Encoding) (hn : bytes ≠ []) :
    ∃ texts, (fresh e bytes.length [bytes]).ReadsToEnd texts ∧
      texts.flatten = clean (released e bytes) := by
  have fits : Fits bytes.length [bytes] := by simp [Fits, hn]
  obtain ⟨texts, ht, flat⟩ :=
    (received_fresh e bytes.length [bytes]).fed.exists_readsToEnd rfl fits
  refine ⟨texts, ht, ?_⟩
  rw [flat, cleanPieces, cleanPieces, releasedAfter_start, List.append_nil]
  rfl

theorem isUnfinished_of_isCleanFormOf
    (h : IsCleanFormOf (clean (released e bytes)) (decoded e bytes)) :
    clean (held e bytes) = [] ∨ IsUnfinished (clean (held e bytes)) := by
  obtain ⟨tail, text, begun⟩ := h
  rw [clean_decoded] at text
  rw [List.append_cancel_left text]
  exact begun

/-- A sequence that was cut is read, and nothing that has only begun makes up for that. -/
theorem isApart_of_isCleanFormOf {a b : Bytes}
    (hu : clean (held e (a ++ b)) = [] ∨ IsUnfinished (clean (held e (a ++ b))))
    (h : IsCleanFormOf (clean (released e a) ++ clean (releasedAfter e a b)) (decoded e (a ++ b))) :
    IsApart (released e a) (releasedAfter e a b) := by
  by_contra cut
  obtain ⟨before, s, rest, hs, pieces, whole⟩ := exists_of_not_isApart cut
  obtain ⟨tail, text, -⟩ := h
  rw [clean_decoded, released_append, whole, pieces] at text
  have sum := congrArg weight text
  have begun : weight (clean (held e (a ++ b))) ≤ 1 := by
    rcases hu with none | some
    · rw [none]
      decide
    · exact some.weight_le
  have complete := hs.le_weight
  simp only [weight_append] at sum
  omega

/-- However a stream is cut, reading comes to its end. All texts together are the clean form of the
stream, but for a sequence that has begun at its end, exactly if no sequence begins in released text
and ends in what comes later, and what is held back at the end has begun a sequence. -/
theorem isCleanFormOf_readsToEnd_iff (e : Encoding) (bytes : Bytes) :
    (∀ (size : Nat) (chunks : List Bytes), Fits size chunks →
      ∃ texts, (fresh e size chunks).ReadsToEnd texts) ∧
    ((∀ (size : Nat) (chunks : List Bytes), Fits size chunks → chunks.flatten = bytes →
      ∀ texts, (fresh e size chunks).ReadsToEnd texts →
        IsCleanFormOf texts.flatten (decoded e bytes)) ↔
      IsUncut e bytes ∧ (held e bytes = [] ∨ IsUnfinished (clean (held e bytes)))) := by
  have reads (size : Nat) (chunks : List Bytes) (hf : Fits size chunks) :
      ∃ texts, (fresh e size chunks).ReadsToEnd texts ∧ texts.flatten = cleanPieces e [] chunks :=
    (received_fresh e size chunks).fed.exists_readsToEnd rfl hf
  refine ⟨fun size chunks hf => (reads size chunks hf).imp fun _ h => h.1, ?_⟩
  constructor
  · intro h
    have unfinished : clean (held e bytes) = [] ∨ IsUnfinished (clean (held e bytes)) := by
      by_cases hn : bytes = []
      · subst hn
        left
        rw [held, decoded_nil]
        exact clean_nil
      · obtain ⟨texts, ht, flat⟩ := exists_readsToEnd_once e hn
        have fits : Fits bytes.length [bytes] := by simp [Fits, hn]
        exact isUnfinished_of_isCleanFormOf (flat ▸ h _ [bytes] fits (by simp) texts ht)
    refine ⟨?_, unfinished.imp_left held_eq_nil_of_clean⟩
    rintro a b rfl
    by_cases ha : a = []
    · intro before after text
      rw [ha, released_nil] at text
      simp at text
    · by_cases hb : b = []
      · intro before after _ hd
        rwa [hb, releasedAfter_nil, List.append_nil]
      · have fits : Fits (a.length + b.length) [a, b] := by simp [Fits, ha, hb]
        obtain ⟨texts, ht, flat⟩ := reads _ [a, b] fits
        rw [cleanPieces, cleanPieces, cleanPieces, releasedAfter_start, List.append_nil,
          List.nil_append] at flat
        exact isApart_of_isCleanFormOf unfinished (flat ▸ h _ [a, b] fits (by simp) texts ht)
  · rintro ⟨uncut, unfinished⟩ size chunks hf rfl texts ht
    obtain ⟨texts', ht', flat⟩ := reads size chunks hf
    cases ht.unique ht'
    have pieces : clean (released e []) ++ cleanPieces e [] chunks =
        clean (released e ([] ++ chunks.flatten)) := cleanPieces_of_isUncut uncut
    rw [released_nil, clean_nil, List.nil_append, List.nil_append] at pieces
    refine ⟨clean (held e chunks.flatten), ?_, unfinished.imp_left fun none => ?_⟩
    · rw [clean_decoded, flat, pieces]
    · rw [none, clean_nil]

/-- Colours, a line without an end, and a sequence that the server never completes. -/
theorem isCleanFormOf_readsToEnd_colours :
    let bytes : Bytes := [0x1B, 0x5B, 0x33, 0x31, 0x6D, 0x62, 0x79, 0x65, 0x0D, 0x0A, 0x3E, 0x1B,
      0x5B, 0x30, 0x3B]
    ∀ (size : Nat) (chunks : List Bytes), Fits size chunks → chunks.flatten = bytes →
      ∀ texts, (fresh .utf8 size chunks).ReadsToEnd texts →
        IsCleanFormOf texts.flatten (decoded .utf8 bytes) := by
  intro bytes
  have data : (parse bytes).data = bytes := by decide +kernel
  have text : decoded .utf8 bytes = "\x1b[31mbye\r\n>\x1b[0;".toList := by
    rw [decoded, data]
    simp [bytes, Encoding.decode, Encoding.initialState, Encoding.reading, Encoding.Reading.run,
      Encoding.Reading.char, Encoding.Utf8.read]
  have short : ShortSequences (decoded .utf8 bytes) :=
    (shortRuns_of_utf8Length (text.symm ▸ (by decide))).shortSequences
  have kept : clean (held .utf8 bytes) = esc :: '[' :: ("0;".toList ++ []) := by
    rw [held, text]
    decide +kernel
  have parameters : ∀ c ∈ "0;".toList, isParameter c := List.all_eq_true.1 (by decide)
  have begun : IsUnfinished (clean (held .utf8 bytes)) :=
    kept ▸ .control parameters (List.forall_mem_nil _)
  exact (isCleanFormOf_readsToEnd_iff .utf8 bytes).2.2 ⟨isUncut_of_shortSequences short, .inr begun⟩

/-- What follows the last escape character begins no sequence, and is lost when the server closes. -/
theorem not_isCleanFormOf_readsToEnd : ¬ ∀ (e : Encoding) (size : Nat) (chunks : List Bytes),
    Fits size chunks → ∀ texts, (fresh e size chunks).ReadsToEnd texts →
      IsCleanFormOf texts.flatten (decoded e chunks.flatten) := by
  intro h
  let bytes : Bytes := [0x62, 0x79, 0x65, 0x1B, 0x78]
  have data : (parse bytes).data = bytes := by decide +kernel
  have text : decoded .utf8 bytes = "bye\x1bx".toList := by
    rw [decoded, data]
    simp [bytes, Encoding.decode, Encoding.initialState, Encoding.reading, Encoding.Reading.run,
      Encoding.Reading.char, Encoding.Utf8.read]
  have kept : clean (held .utf8 bytes) = "\x1bx".toList := by
    rw [held, text]
    decide +kernel
  have some_bytes : bytes ≠ [] := by simp [bytes]
  obtain ⟨texts, ht, flat⟩ := exists_readsToEnd_once .utf8 some_bytes
  have form := h .utf8 bytes.length [bytes] (by simp [Fits, bytes]) texts ht
  rw [flat, List.flatten_singleton] at form
  rcases isUnfinished_of_isCleanFormOf form with none | some
  · simp [kept] at none
  · have := some.weight_le
    rw [kept] at this
    exact absurd this (by decide)

end MudClient.Telnet.Connection
