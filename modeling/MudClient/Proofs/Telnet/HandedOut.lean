import Mathlib.Data.List.Induction
import MudClient.Proofs.Telnet.Chunking
import MudClient.Proofs.Telnet.Cleaning
import MudClient.Proofs.Telnet.Leftover
/-! What a connection hands out is clean, unless a sequence comes together from what stood around
something that was taken out, or begins in a text that was handed out already. -/
namespace MudClient.Telnet.Connection

open Ansi

/-- What a caller may do to get text. -/
inductive Call where
  | read
  | take
  deriving DecidableEq, Repr

def answer (c : Connection) : Call → Option Text × Connection
  | .read => (c.readText.1.toOption.join, c.readText.2)
  | .take => c.takePartial

@[simp] theorem answer_take (c : Connection) : c.answer .take = c.takePartial := rfl

/-- Every text that a caller gets. -/
def handedOut (c : Connection) : List Call → List Text
  | [] => []
  | call :: calls => (c.answer call).1.toList ++ (c.answer call).2.handedOut calls

theorem splitLastLine_eq (t : Text) : splitLastLine t =
    ((t.reverse.dropWhile (· ≠ '\n')).reverse, (t.reverse.takeWhile (· ≠ '\n')).reverse) := by
  have whole := splitLastLine_append t
  have split := List.takeWhile_append_dropWhile (p := (· ≠ '\n')) (l := t.reverse)
  have ht : (t.reverse.dropWhile (· ≠ '\n')).reverse ++
      (t.reverse.takeWhile (· ≠ '\n')).reverse = t := by
    rw [← List.reverse_append, split, List.reverse_reverse]
  exact Prod.ext (List.append_cancel_right (whole.trans ht.symm)) rfl

/-- What has no newline in it is not cut. -/
theorem infix_cutLines (events : List Event) {s t : Text} (hs : '\n' ∉ s) (h : s <:+: t) :
    s <:+: (cutLines events t).1 ∨ s <:+: (cutLines events t).2 := by
  unfold cutLines
  split
  · exact .inl h
  · rw [← splitLastLine_append t, List.infix_append_iff] at h
    rcases h with h | h | ⟨u, v, rfl, hu, hv⟩
    · exact .inl h
    · exact .inr h
    · rcases List.eq_nil_or_concat u with rfl | ⟨w, c, rfl⟩
      · exact .inr hv.isInfix
      · -- The lines end with a newline.
        rw [splitLastLine_eq, ← List.reverse_prefix, List.concat_eq_append,
          List.reverse_append, List.reverse_reverse] at hu
        have hd := List.head?_dropWhile_not (· ≠ '\n') t.reverse
        obtain ⟨rest, hr⟩ := hu
        rw [← hr] at hd
        have hc : c = '\n' := by simpa using hd
        exact absurd (by simp [hc]) hs

theorem suffix_splitLastLine {s t : Text} (hs : '\n' ∉ s) (h : s <:+ t) : s <:+ (splitLastLine t).2 := by
  obtain ⟨u, rfl⟩ := h
  have kept : ∀ c ∈ s.reverse, decide (c ≠ '\n') := by
    intro c hc
    rw [decide_eq_true_eq]
    rintro rfl
    exact hs (List.mem_reverse.1 hc)
  rw [splitLastLine_eq, List.reverse_append, List.takeWhile_append_of_pos kept, List.reverse_append,
    List.reverse_reverse]
  exact List.suffix_append _ _

/-- A read fails, or it meets the end of the stream, or it takes bytes in. -/
theorem answer_read (c : Connection) : ∃ link, c.answer .read = (none, { c with link }) ∨
    c.answer .read = takePartial { c with link } ∨ ∃ bytes,
      c.answer .read = (some (receive { c with link } bytes).1, (receive { c with link } bytes).2) := by
  cases hr : c.link.read c.bufferSize with
  | mk result link =>
    refine ⟨link, ?_⟩
    unfold answer readText
    rw [hr]
    cases result with
    | error e => exact .inl rfl
    | ok bytes =>
      cases bytes with
      | nil => exact .inr (.inl rfl)
      | cons b r => exact .inr (.inr ⟨b :: r, rfl⟩)

theorem return_not_mem_takePartial {c : Connection} (h : '\r' ∉ c.partialLine) :
    (∀ t ∈ c.takePartial.1, '\r' ∉ t) ∧ '\r' ∉ c.takePartial.2.partialLine := by
  unfold takePartial
  split
  · exact ⟨by simp, h⟩
  · exact ⟨by simpa using h, List.not_mem_nil⟩

theorem return_not_mem_receive {c : Connection} (h : '\r' ∉ c.partialLine) (bytes : Bytes) :
    '\r' ∉ (c.receive bytes).1 ∧ '\r' ∉ (c.receive bytes).2.partialLine := by
  rw [receive_eq, ← not_or, ← List.mem_append, cutLines_append, List.mem_append, not_or]
  exact ⟨h, Ansi.return_not_mem_clean _⟩

theorem return_not_mem_answer {c : Connection} (h : '\r' ∉ c.partialLine) (call : Call) :
    (∀ t ∈ (c.answer call).1, '\r' ∉ t) ∧ '\r' ∉ (c.answer call).2.partialLine := by
  cases call with
  | take => exact return_not_mem_takePartial h
  | read =>
    obtain ⟨link, he | he | ⟨bytes, he⟩⟩ := c.answer_read
    · rw [he]
      exact ⟨by simp, h⟩
    · rw [he]
      exact return_not_mem_takePartial h
    · rw [he]
      have done := return_not_mem_receive (c := { c with link }) h bytes
      exact ⟨by simpa using done.1, done.2⟩

theorem return_not_mem_handedOut {c : Connection} (h : '\r' ∉ c.partialLine) (calls : List Call) :
    ∀ t ∈ c.handedOut calls, '\r' ∉ t := by
  induction calls generalizing c with
  | nil => simp [handedOut]
  | cons call calls ih =>
    obtain ⟨now, later⟩ := return_not_mem_answer h call
    intro t ht
    rcases List.mem_append.1 ht with ht | ht
    · exact now t (Option.mem_toList.1 ht)
    · exact ih later t ht

/-- A connection that took these bytes in and handed this text out, and to which these chunks will
come. -/
structure Awaits (e : Encoding) (size : Nat) (bytes : Bytes) (given : Text) (chunks : List Bytes)
    (c : Connection) : Prop where
  received : c.Received e bytes given
  incoming : c.link.incoming = chunks.map .chunk
  bufferSize : c.bufferSize = size
  fits : Fits size chunks

variable {e : Encoding} {size : Nat} {bytes : Bytes} {given : Text} {chunks : List Bytes}
  {c : Connection}

theorem awaits_fresh (hf : Fits size chunks) : (fresh e size chunks).Awaits e size [] [] chunks :=
  ⟨received_fresh e size chunks, rfl, rfl, hf⟩

theorem Awaits.takePartial (h : c.Awaits e size bytes given chunks) :
    c.takePartial.2.Awaits e size bytes (given ++ c.takePartial.1.getD []) chunks := by
  unfold Connection.takePartial
  split
  · simpa using h
  · have text := h.received.text
    have taken : ({ c with partialLine := [] } : Connection).Received e bytes
        (given ++ c.partialLine) :=
      { h.received with text := by simpa using text, partialLine := List.not_mem_nil }
    exact ⟨taken, h.incoming, h.bufferSize, h.fits⟩

/-- No sequence begins in the text that the first bytes release and ends in the text that the others
release. -/
def IsUncut (e : Encoding) (bytes : Bytes) : Prop :=
  ∀ a b, bytes = a ++ b → IsApart (released e a) (releasedAfter e a b)

theorem isUncut_of_shortSequences (h : ShortSequences (decoded e bytes)) : IsUncut e bytes := by
  rintro a b rfl
  rw [decoded_append] at h
  exact h.isApart

theorem releasedAfter_append (e : Encoding) (a b c : Bytes) :
    releasedAfter e a (b ++ c) = releasedAfter e a b ++ releasedAfter e (a ++ b) c := by
  have whole := released_append e a (b ++ c)
  rw [← List.append_assoc, released_append, released_append, List.append_assoc] at whole
  exact (List.append_cancel_left whole).symm

theorem IsUncut.of_append {a b : Bytes} (h : IsUncut e (a ++ b)) : IsUncut e a := by
  rintro c d rfl
  have apart := h c (d ++ b) (List.append_assoc ..)
  rw [releasedAfter_append] at apart
  exact apart.of_append

/-- Whatever a caller does, the text that is handed out and kept is that of the bytes so far. -/
theorem Awaits.answer (h : c.Awaits e size bytes given chunks)
    (hu : IsUncut e (bytes ++ chunks.flatten)) (call : Call) :
    ∃ took left, chunks.flatten = took ++ left.flatten ∧
      (c.answer call).2.Awaits e size (bytes ++ took) (given ++ (c.answer call).1.getD []) left := by
  cases call with
  | take =>
    refine ⟨[], chunks, rfl, ?_⟩
    rw [answer_take, List.append_nil]
    exact h.takePartial
  | read =>
    cases chunks with
    | nil =>
      have ended : c.answer .read = c.takePartial := by
        unfold Connection.answer readText Link.read
        simp [h.incoming, Except.toOption]
      refine ⟨[], [], rfl, ?_⟩
      rw [ended, List.append_nil]
      exact h.takePartial
    | cons chunk chunks =>
      obtain ⟨⟨hn, hlen⟩, hf⟩ := List.forall_mem_cons.1 h.fits
      have hr := readText_eq h.incoming hn (h.bufferSize ▸ hlen)
      have start : ({ c with link := { c.link with incoming := chunks.map .chunk } } :
          Connection).Received e bytes given := { h.received with }
      rw [List.flatten_cons, ← List.append_assoc] at hu
      have next := start.receive chunk (hu.of_append bytes chunk rfl)
      refine ⟨chunk, chunks, rfl, ?_⟩
      unfold Connection.answer
      dsimp only
      rw [hr]
      exact ⟨next, by rw [link_receive], by rw [bufferSize_receive]; exact h.bufferSize, hf⟩

/-- Everything that is handed out is a piece of the clean text of the stream. -/
theorem Awaits.infix_of_mem_handedOut (h : c.Awaits e size bytes given chunks)
    (hu : IsUncut e (bytes ++ chunks.flatten)) {calls : List Call} {t : Text}
    (ht : t ∈ c.handedOut calls) : t <:+: clean (released e (bytes ++ chunks.flatten)) := by
  induction calls generalizing c bytes given chunks with
  | nil => exact absurd ht List.not_mem_nil
  | cons call calls ih =>
    obtain ⟨took, left, hl, next⟩ := h.answer hu call
    rw [hl, ← List.append_assoc] at hu ⊢
    rcases List.mem_append.1 ht with ht | ht
    · have ht : (c.answer call).1 = some t := Option.mem_toList.1 ht
      have text := next.received.text
      rw [ht] at text
      have piece : t <:+: clean (released e (bytes ++ took)) := ⟨given, _, text⟩
      rw [released_append, (hu (bytes ++ took) left.flatten rfl).clean_append]
      exact piece.trans (List.prefix_append _ _).isInfix
    · exact ih next hu ht

theorem takePartial_of_ne_nil (h : c.partialLine ≠ []) : c.takePartial.1 = some c.partialLine := by
  unfold Connection.takePartial
  rw [if_neg (by simpa using h)]

/-- A chunk is read, and what is still to come stays. -/
theorem exists_read {chunk : Bytes} {incoming : List Incoming} (h : c.Fed e bytes)
    (hl : c.link.incoming = .chunk chunk :: incoming) (hn : chunk ≠ [])
    (hs : chunk.length ≤ c.bufferSize) : ∃ (t : Text) (d : Connection), d.Fed e (bytes ++ chunk) ∧
      (t, d.partialLine) = cutLines (parse ((parse bytes).left ++ chunk)).events
        (c.partialLine ++ clean (releasedAfter e bytes chunk)) ∧
      d.link.incoming = incoming ∧ d.bufferSize = c.bufferSize ∧
      ∀ calls, c.handedOut (.read :: calls) = t :: d.handedOut calls := by
  have start : ({ c with link := { c.link with incoming } } : Connection).Fed e bytes := { h with }
  refine ⟨_, _, start.receive chunk, start.receive_texts chunk, ?_, ?_, ?_⟩
  · rw [link_receive]
  · rw [bufferSize_receive]
  · intro calls
    rw [handedOut, Connection.answer, readText_eq hl hn hs]
    rfl

/-- A sequence that the last chunk leaves is handed out, at once or when the rest is taken. -/
theorem Fed.exists_handedOut {chunk : Bytes} {s : Text} (h : c.Fed e bytes)
    (hl : c.link.incoming = [.chunk chunk]) (hn : chunk ≠ []) (hb : chunk.length ≤ c.bufferSize)
    (hs : IsSequence s) (hi : s <:+: c.partialLine ++ clean (releasedAfter e bytes chunk)) :
    ∃ t ∈ c.handedOut [.read, .take], s <:+: t := by
  obtain ⟨t, d, -, texts, -, -, out⟩ := exists_read h hl hn hb
  rw [out]
  rcases infix_cutLines (parse ((parse bytes).left ++ chunk)).events hs.newline_not_mem hi with ht | ht
  · rw [← texts] at ht
    exact ⟨t, List.mem_cons_self, ht⟩
  · rw [← texts] at ht
    have kept : d.partialLine ≠ [] := by
      intro hk
      obtain ⟨r, rfl⟩ := hs.exists_cons
      rw [hk, List.infix_nil] at ht
      cases ht
    refine ⟨d.partialLine, List.mem_cons_of_mem _ ?_, ht⟩
    simp [handedOut, takePartial_of_ne_nil kept]

theorem released_nil (e : Encoding) : released e [] = [] := by
  rw [released, decoded_nil]
  rfl

theorem releasedAfter_of_data {a b : Bytes} (h : (parse ((parse a).left ++ b)).data = []) :
    releasedAfter e a b = [] := by
  have whole := released_append e a b
  rw [released, decoded_append, h, Encoding.decode_nil, List.append_nil] at whole
  exact List.append_right_eq_self.1 whole.symm

/-- A sequence that begins in what one byte releases, and ends in what comes after it, is handed out
if the stream is cut behind this byte. -/
theorem Fed.exists_handedOut_of_cut {y : UInt8} {rest : Bytes} {before after left : Text}
    (h : c.Fed e bytes) (hl : c.link.incoming = [.chunk [y], .chunk rest])
    (hy : 1 ≤ c.bufferSize) (hn : rest ≠ []) (hb : rest.length ≤ c.bufferSize)
    (new : releasedAfter e bytes [y] = before ++ esc :: after) (hd : dropSequence? after = none)
    (hr : dropSequence? (after ++ releasedAfter e (bytes ++ [y]) rest) = some left) :
    ∃ s, IsSequence s ∧ ∃ t ∈ c.handedOut [.read, .read, .take], s <:+: t := by
  obtain ⟨s, -, hs, hm⟩ := exists_of_dropSequence?_append hd hr
  have printable : ∀ c ∈ after ++ s, 0x20 ≤ c.toNat := fun c hc => (hs.printable hc).1
  have cleaned := clean_append_of_forall fun c hc => printable c (List.mem_append_left s hc)
  -- What releases text is no prompt, so the line is kept.
  have events : (parse ((parse bytes).left ++ [y])).events = [] := by
    rcases parse_concat (left_parse bytes).2 y with hdata | hevents
    · rw [releasedAfter_of_data hdata] at new
      simp at new
    · exact hevents
  obtain ⟨t, d, fed, texts, incoming, size, out⟩ := exists_read h hl (List.cons_ne_nil y []) hy
  have line : d.partialLine =
      (splitLastLine (c.partialLine ++ clean (releasedAfter e bytes [y]))).2 := by
    rw [events] at texts
    exact congrArg Prod.snd texts
  have begun : esc :: after <:+ d.partialLine := by
    have suffix : esc :: after <:+ clean (before ++ esc :: after) := by
      rw [escape_suffix_clean]
      refine ⟨after, List.suffix_append _ _, hd, ?_⟩
      simpa [clean, strip] using (cleaned []).symm
    rw [line, new]
    refine suffix_splitLastLine (fun hm => ?_) (suffix.trans (List.suffix_append _ _))
    exact hs.newline_not_mem (List.mem_append_left s hm)
  obtain ⟨p, hp⟩ := begun
  have whole : esc :: (after ++ s) <:+:
      d.partialLine ++ clean (releasedAfter e (bytes ++ [y]) rest) := by
    rw [hm, clean_append_of_forall fun c hc => printable c (List.mem_append_right after hc), ← hp]
    exact ⟨p, clean left, by simp⟩
  obtain ⟨u, hu, hi⟩ := fed.exists_handedOut incoming hn (size ▸ hb) hs whole
  refine ⟨_, hs, u, ?_, hi⟩
  rw [out]
  exact List.mem_cons_of_mem t hu

/-- Text that was released was released by some byte. -/
theorem exists_release {k : Nat} (h : k < (released e bytes).length) : ∃ a y b,
    bytes = a ++ y :: b ∧ (released e a).length ≤ k ∧ k < (released e (a ++ [y])).length := by
  induction bytes using List.reverseRecOn with
  | nil =>
    rw [released_nil] at h
    cases h
  | append_singleton l y ih =>
    by_cases hk : k < (released e l).length
    · obtain ⟨a, z, b, rfl, ha, hz⟩ := ih hk
      exact ⟨a, z, b ++ [y], by simp, ha, hz⟩
    · exact ⟨l, y, [], rfl, Nat.le_of_not_lt hk, h⟩

theorem releasedAfter_nil (e : Encoding) (a : Bytes) : releasedAfter e a [] = [] := by
  have whole := released_append e a []
  rw [List.append_nil] at whole
  exact List.append_right_eq_self.1 whole.symm

section

variable {α : Type} {x u before after : List α} {a : α}

theorem exists_of_length_lt (h : x ++ u = before ++ a :: after) (hl : before.length < x.length) :
    ∃ v, x = before ++ a :: v ∧ after = v ++ u := by
  rcases List.append_eq_append_iff.1 h with ⟨v, rfl, -⟩ | ⟨v, rfl, hv⟩
  · rw [List.length_append] at hl
    omega
  · cases v with
    | nil => simp at hl
    | cons b v =>
      obtain ⟨rfl, rest⟩ := List.cons.inj hv
      exact ⟨v, rfl, rest⟩

theorem exists_of_length_le (h : x ++ u = before ++ a :: after) (hl : x.length ≤ before.length) :
    ∃ v, u = v ++ a :: after := by
  rcases List.append_eq_append_iff.1 h with ⟨v, -, hv⟩ | ⟨v, rfl, hv⟩
  · exact ⟨v, hv⟩
  · cases v with
    | nil => exact ⟨[], hv.symm⟩
    | cons b v =>
      rw [List.length_append, List.length_cons] at hl
      omega

end

/-- If a sequence reaches from what some bytes release into what the others release, then there is one
that begins in what a single byte releases. -/
theorem exists_cut_of_not_isUncut (h : ¬ IsUncut e bytes) : ∃ a y b before after left,
    bytes = a ++ y :: b ∧ b ≠ [] ∧ releasedAfter e a [y] = before ++ esc :: after ∧
      dropSequence? after = none ∧
      dropSequence? (after ++ releasedAfter e (a ++ [y]) b) = some left := by
  unfold IsUncut IsApart at h
  push Not at h
  obtain ⟨a, b, rfl, before, after, ha, hd, hr⟩ := h
  have position : before.length < (released e a).length := by simp [ha]
  obtain ⟨l, y, r, rfl, hle, hlt⟩ := exists_release position
  have split : l ++ y :: r = (l ++ [y]) ++ r := by simp
  rw [split, released_append] at ha
  obtain ⟨begun, text, rfl⟩ := exists_of_length_lt ha hlt
  rw [released_append] at text
  obtain ⟨before', new⟩ := exists_of_length_le text hle
  have none : dropSequence? begun = none := by
    cases hs : dropSequence? begun with
    | none => rfl
    | some left => simp [dropSequence?_append _ hs] at hd
  rw [split, List.append_assoc, ← releasedAfter_append] at hr
  obtain ⟨left, hr⟩ := Option.ne_none_iff_exists'.1 hr
  refine ⟨l, y, r ++ b, before', begun, left, by simp, fun he => ?_, new, none, hr⟩
  rw [he, releasedAfter_nil, List.append_nil, none] at hr
  cases hr

theorem exists_handedOut_of_not_isUncut (h : ¬ IsUncut e bytes) : ∃ (size : Nat)
    (chunks : List Bytes) (calls : List Call), Fits size chunks ∧ chunks.flatten = bytes ∧
      ∃ s, IsSequence s ∧ ∃ t ∈ (fresh e size chunks).handedOut calls, s <:+: t := by
  obtain ⟨a, y, b, before, after, left, rfl, hn, new, hd, hr⟩ := exists_cut_of_not_isUncut h
  let size := a.length + (1 + b.length)
  have fits : Fits size [[y], b] := by
    simp only [Fits, List.forall_mem_cons, List.length_singleton]
    exact ⟨⟨List.cons_ne_nil y [], by omega⟩, ⟨hn, by omega⟩, List.forall_mem_nil _⟩
  have one : 1 ≤ size := (fits [y] (by simp)).2
  have rest : b.length ≤ size := (fits b (by simp)).2
  by_cases ha : a = []
  · -- There is nothing to be read before the byte.
    subst ha
    have start := (received_fresh e size [[y], b]).fed
    obtain ⟨s, hs, found⟩ := start.exists_handedOut_of_cut rfl one hn rest new hd hr
    exact ⟨size, [[y], b], _, fits, by simp, s, hs, found⟩
  · have start := (received_fresh e size [a, [y], b]).fed
    obtain ⟨t, d, fed, -, incoming, bufferSize, out⟩ :=
      exists_read start rfl ha (Nat.le_add_right _ _)
    rw [List.nil_append] at fed
    have same : d.bufferSize = size := bufferSize
    obtain ⟨s, hs, u, hu, hi⟩ :=
      fed.exists_handedOut_of_cut incoming (same ▸ one) hn (same ▸ rest) new hd hr
    refine ⟨size, [a, [y], b], .read :: [.read, .read, .take], ?_, by simp, s, hs, u, ?_, hi⟩
    · exact List.forall_mem_cons.2 ⟨⟨ha, Nat.le_add_right _ _⟩, fits⟩
    · rw [out]
      exact List.mem_cons_of_mem t hu

/-- A sequence that cleaning leaves is handed out when the stream is read at once. -/
theorem exists_handedOut_of_sequence {s : Text} (hn : bytes ≠ []) (hs : IsSequence s)
    (hi : s <:+: clean (released e bytes)) :
    ∃ t ∈ (fresh e bytes.length [bytes]).handedOut [.read, .take], s <:+: t := by
  have start := (received_fresh e bytes.length [bytes]).fed
  have whole := released_append e [] bytes
  rw [released_nil, List.nil_append, List.nil_append] at whole
  rw [whole] at hi
  exact start.exists_handedOut rfl hn (Nat.le_refl _) hs hi

/-- No carriage return is ever handed out. No sequence is, however the stream is cut and whatever is
taken in between, exactly if no escape character comes to begin one when what follows it is clean, and
none reaches from released text into what is still to come. -/
theorem isClean_handedOut (e : Encoding) (bytes : Bytes) :
    (∀ (size : Nat) (chunks : List Bytes) (calls : List Call), Fits size chunks →
      chunks.flatten = bytes → ∀ t ∈ (fresh e size chunks).handedOut calls, '\r' ∉ t) ∧
    ((∀ (size : Nat) (chunks : List Bytes) (calls : List Call), Fits size chunks →
      chunks.flatten = bytes → ∀ t ∈ (fresh e size chunks).handedOut calls, IsClean t) ↔
        IsSettled (released e bytes) ∧ IsUncut e bytes) := by
  refine ⟨fun size chunks calls _ _ => return_not_mem_handedOut List.not_mem_nil calls, ?_⟩
  constructor
  · intro h
    constructor
    · rw [← isClean_clean_iff]
      refine ⟨return_not_mem_clean _, fun s hs hi => ?_⟩
      by_cases hn : bytes = []
      · obtain ⟨r, rfl⟩ := hs.exists_cons
        rw [hn, released_nil] at hi
        simp [clean, strip] at hi
      · obtain ⟨t, ht, hi⟩ := exists_handedOut_of_sequence hn hs hi
        have fits : Fits bytes.length [bytes] := by simp [Fits, hn]
        exact (h _ _ _ fits (by simp) t ht).2 s hs hi
    · by_contra hu
      obtain ⟨size, chunks, calls, fits, flat, s, hs, t, ht, hi⟩ :=
        exists_handedOut_of_not_isUncut hu
      exact (h size chunks calls fits flat t ht).2 s hs hi
  · rintro ⟨settled, uncut⟩ size chunks calls fits rfl t ht
    have piece := (awaits_fresh fits).infix_of_mem_handedOut uncut ht
    exact (isClean_clean_iff.2 settled).of_piece piece

/-- Colours, the end of a line, and a sequence that is not complete. -/
theorem isClean_handedOut_colours :
    let bytes : Bytes := [0x1B, 0x5B, 0x31, 0x3B, 0x33, 0x31, 0x6D, 0x72, 0x65, 0x64, 0x1B, 0x5B,
      0x6D, 0x0D, 0x0A, 0x1B, 0x5B, 0x33]
    ∀ (size : Nat) (chunks : List Bytes) (calls : List Call), Fits size chunks →
      chunks.flatten = bytes → ∀ t ∈ (fresh .utf8 size chunks).handedOut calls, IsClean t := by
  intro bytes
  have data : (parse bytes).data = bytes := by decide +kernel
  have text : decoded .utf8 bytes = "\x1b[1;31mred\x1b[m\r\n\x1b[3".toList := by
    rw [decoded, data]
    simp [bytes, Encoding.decode, Encoding.initialState, Encoding.reading, Encoding.Reading.run,
      Encoding.Reading.char, Encoding.Utf8.read]
  have short : ShortSequences (decoded .utf8 bytes) :=
    (shortRuns_of_utf8Length (text.symm ▸ (by decide))).shortSequences
  have settled : IsSettled (released .utf8 bytes) := by
    rw [released, text]
    decide +kernel
  exact (isClean_handedOut .utf8 bytes).2.2 ⟨settled, isUncut_of_shortSequences short⟩

/-- A carriage return stands inside a sequence, and the sequence is whole without it. -/
theorem not_isClean_handedOut : ¬ ∀ (e : Encoding) (size : Nat) (chunks : List Bytes)
    (calls : List Call), Fits size chunks →
      ∀ t ∈ (fresh e size chunks).handedOut calls, IsClean t := by
  intro h
  let bytes : Bytes := [0x1B, 0x0D, 0x5B, 0x33, 0x31, 0x6D, 0x72, 0x65, 0x64, 0x0A]
  have data : (parse bytes).data = bytes := by decide +kernel
  have text : decoded .utf8 bytes = "\x1b\r[31mred\n".toList := by
    rw [decoded, data]
    simp [bytes, Encoding.decode, Encoding.initialState, Encoding.reading, Encoding.Reading.run,
      Encoding.Reading.char, Encoding.Utf8.read]
  have left : clean (released .utf8 bytes) = "\x1b[31m".toList ++ "red\n".toList := by
    rw [released, text]
    decide +kernel
  have colour : IsSequence "\x1b[31m".toList := by
    have parameters : ∀ c ∈ "31".toList, isParameter c := List.all_eq_true.1 (by decide)
    exact .control parameters (List.forall_mem_nil _) (by decide : isFinal 'm')
  have found : "\x1b[31m".toList <:+: clean (released .utf8 bytes) :=
    left ▸ (List.prefix_append _ _).isInfix
  obtain ⟨t, ht, hi⟩ := exists_handedOut_of_sequence (by decide) colour found
  exact (h .utf8 _ [bytes] [.read, .take] (by simp [Fits, bytes]) t ht).2 _ colour hi

end MudClient.Telnet.Connection
