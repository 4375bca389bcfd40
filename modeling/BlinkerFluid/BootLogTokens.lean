import BlinkerFluid.BootLog

/-! What the boot log shows of a line, told by the address tokens of the line: all
that stands outside them, and each of them up to its first mark. -/

namespace BlinkerFluid.BootLogTokens
open ByteString BootLog

section Segments

/-- A line as its reader sees it: address tokens, each up to the next blank, and
single characters outside them. -/
inductive Segment
  | outside (c : Char)
  | address (token : Bytes)
  deriving DecidableEq

theorem startsURL_head {c : Char} {s : Bytes} (starts : startsURL (c :: s) = true) : c = 'h' := by
  rw [startsURL_iff] at starts
  rcases starts with ⟨rest, same⟩ | ⟨rest, same⟩ <;> exact (List.cons.inj same).1.symm

def segments : Bytes → List Segment
  | [] => []
  | c :: s =>
    if startsURL (c :: s) then
      .address ((c :: s).takeWhile fun d => !endsURL d) ::
        segments (s.dropWhile fun d => !endsURL d)
    else .outside c :: segments s
termination_by s => s.length
decreasing_by
  · have := (List.dropWhile_suffix (l := s) fun d => !endsURL d).length_le
    simp only [List.length_cons]
    omega
  · simp

def Segment.chunks : Segment → List Bytes
  | .outside c => [[c]]
  | .address token =>
    (token.takeWhile fun c => !isMark c).map ([·]) ++ if token.any isMark then [kRedacted] else []

def Segment.shown (segment : Segment) : Bytes := segment.chunks.flatten

def Segment.source : Segment → Bytes
  | .outside c => [c]
  | .address token => token

/-- What may be known of a segment: all of it outside addresses, and an address up
to its first `?` or `#`. -/
def Segment.upToMark : Segment → Segment
  | .outside c => .outside c
  | .address token =>
    .address ((token.takeWhile fun c => !isMark c) ++ (token.find? isMark).toList)

variable {token rest : Bytes}

theorem emitted_skip_token (still : ∀ c ∈ token, endsURL c = false) :
    emitted true true (token ++ rest) = emitted true true rest := by
  induction token with
  | nil => rfl
  | cons c token ih =>
    rw [List.cons_append, emitted_skip, still c List.mem_cons_self,
      ih fun d mem => still d (List.mem_cons_of_mem _ mem)]
    rfl

theorem emitted_at_blank (redacting : Bool) (ended : ∀ c, rest.head? = some c → endsURL c = true) :
    emitted true redacting rest = emitted false false rest := by
  cases rest with
  | nil => cases redacting <;> rfl
  | cons c rest =>
    have ends := ended c rfl
    have elsewhere : startsURL (c :: rest) = false := by
      by_contra starts
      obtain rfl := startsURL_head (by simpa using starts)
      cases ends
    have outside : emitted false false (c :: rest) =
        [c] :: emitted ((false || startsURL (c :: rest)) && !endsURL c) false rest :=
      emitted_copy fun _ => isMark_of_endsURL ends
    rw [outside, elsewhere]
    cases redacting with
    | false =>
      rw [emitted_copy fun _ => isMark_of_endsURL ends, ends]
      simp
    | true =>
      rw [emitted_skip, ends]
      rfl

theorem emitted_token (still : ∀ c ∈ token, endsURL c = false)
    (ended : ∀ c, rest.head? = some c → endsURL c = true) :
    emitted true false (token ++ rest) =
      (Segment.address token).chunks ++ emitted false false rest := by
  induction token with
  | nil => exact emitted_at_blank false ended
  | cons c token ih =>
    have later : ∀ d ∈ token, endsURL d = false :=
      fun d mem => still d (List.mem_cons_of_mem _ mem)
    rw [List.cons_append]
    by_cases mark : isMark c = true
    · rw [emitted_mark (.inl rfl) mark, emitted_skip_token later, emitted_at_blank true ended]
      simp [Segment.chunks, mark]
    · have plain : isMark c = false := by simpa using mark
      rw [emitted_copy fun _ => plain, Bool.true_or, still c List.mem_cons_self]
      rw [Bool.not_false, Bool.and_true, ih later]
      simp [Segment.chunks, plain]

theorem emitted_start {line : Bytes} (starts : startsURL line = true) :
    emitted false false line = emitted true false line := by
  cases line with
  | nil => rfl
  | cons c line => simp only [emitted, starts, Bool.or_true]

theorem split_token {c : Char} {s : Bytes} (starts : startsURL (c :: s) = true) :
    ((c :: s).takeWhile fun d => !endsURL d) ++ (s.dropWhile fun d => !endsURL d) = c :: s := by
  have first : endsURL c = false := by
    rw [startsURL_head starts]
    rfl
  rw [List.takeWhile_cons_of_pos (by rw [first, Bool.not_false]), List.cons_append,
    List.takeWhile_append_dropWhile]

theorem takeWhile_still (s : Bytes) :
    ∀ c ∈ s.takeWhile (fun d => !endsURL d), endsURL c = false :=
  fun c mem => by simpa using List.mem_takeWhile_imp mem

/-- The scanner emits what the log shows of each segment of the line. -/
theorem emitted_eq_segments (line : Bytes) :
    emitted false false line = (segments line).flatMap Segment.chunks := by
  induction line using segments.induct with
  | case1 =>
    rw [segments]
    rfl
  | case2 c s starts ih =>
    have ended : ∀ d, (s.dropWhile fun d => !endsURL d).head? = some d → endsURL d = true := by
      intro d head
      have stop := List.head?_dropWhile_not (fun d => !endsURL d) s
      simpa [head] using stop
    rw [segments, if_pos starts, List.flatMap_cons, ← ih, ← emitted_token (takeWhile_still _) ended,
      split_token starts, emitted_start starts]
  | case3 c s elsewhere ih =>
    have outside : emitted false false (c :: s) =
        [c] :: emitted ((false || startsURL (c :: s)) && !endsURL c) false s :=
      emitted_copy (by simp [elsewhere])
    rw [segments, if_neg elsewhere, List.flatMap_cons, ← ih, outside]
    simp [Segment.chunks, elsewhere]

theorem segments_source (line : Bytes) : (segments line).flatMap Segment.source = line := by
  induction line using segments.induct with
  | case1 =>
    rw [segments]
    rfl
  | case2 c s starts ih =>
    rw [segments, if_pos starts, List.flatMap_cons, ih]
    exact split_token starts
  | case3 c s elsewhere ih =>
    rw [segments, if_neg elsewhere, List.flatMap_cons, ih]
    rfl

theorem startsURL_takeWhile {s : Bytes} (starts : startsURL s = true) :
    startsURL (s.takeWhile fun d => !endsURL d) = true := by
  have kept {start : Bytes} (still : ∀ d ∈ start, (!endsURL d) = true) (pre : start <+: s) :
      start <+: s.takeWhile fun d => !endsURL d := by
    obtain ⟨rest, rfl⟩ := pre
    rw [List.takeWhile_append_of_pos still]
    exact List.prefix_append _ _
  rw [startsURL_iff] at starts ⊢
  exact starts.imp (kept (List.all_eq_true.mp (by decide))) (kept (List.all_eq_true.mp (by decide)))

theorem segments_address {line token : Bytes} (mem : .address token ∈ segments line) :
    startsURL token = true ∧ ∀ c ∈ token, endsURL c = false := by
  induction line using segments.induct with
  | case1 => simp [segments] at mem
  | case2 c s starts ih =>
    rw [segments, if_pos starts, List.mem_cons] at mem
    rcases mem with same | mem
    · obtain rfl := Segment.address.inj same
      exact ⟨startsURL_takeWhile starts, takeWhile_still _⟩
    · exact ih mem
  | case3 c s elsewhere ih =>
    rw [segments, if_neg elsewhere, List.mem_cons] at mem
    exact ih (mem.resolve_left nofun)

theorem segments_single {token : Bytes} (starts : startsURL token = true)
    (still : (token.all fun c => !endsURL c) = true) : segments token = [.address token] := by
  cases token with
  | nil => cases starts
  | cons c s =>
    have all := List.all_eq_true.mp still
    have whole : (c :: s).takeWhile (fun d => !endsURL d) = c :: s :=
      List.takeWhile_eq_self_iff.mpr all
    have nothing : s.dropWhile (fun d => !endsURL d) = [] :=
      List.dropWhile_eq_nil_iff.mpr fun d mem => all d (List.mem_cons_of_mem _ mem)
    rw [segments, if_pos starts, whole, nothing, segments]

theorem chunks_upToMark (segment : Segment) : segment.upToMark.chunks = segment.chunks := by
  cases segment with
  | outside c => rfl
  | address token =>
    induction token with
    | nil => rfl
    | cons c token ih =>
      by_cases mark : isMark c = true
      · simp [Segment.upToMark, Segment.chunks, mark]
      · have plain : isMark c = false := by simpa using mark
        simpa [Segment.upToMark, Segment.chunks, plain] using ih

end Segments

/-- Two lines that differ only behind the first `?` or `#` of their address tokens. -/
def SameUpToMarks (line other : CString) : Prop :=
  (segments line.chars).map Segment.upToMark = (segments other.chars).map Segment.upToMark

theorem sanitize_eq_some {outputSize : ℕ} {line output : CString} (room : 0 < outputSize)
    (text : output.chars = fill outputSize [] (emitted false false line.chars)) :
    sanitizeBootLogLine (some line) outputSize = some output := by
  obtain ⟨chars, terminated⟩ := output
  simp only [sanitizeBootLogLine, Nat.ne_of_gt room, if_false, Option.some.injEq, CString.mk.injEq]
  exact (scan_eq_fill ..).trans text.symm

/-- The log line fits its buffer with the NUL; no `?` or `#` stands in it between
the start of an address and the next blank; it is the line, each address cut at its
first mark, up to truncation; what follows the first marks has no part in it; and
sanitizing it again changes nothing. -/
theorem sanitizeBootLogLine_sound (line : CString) (outputSize : ℕ) (room : 0 < outputSize) :
    ∃ output, sanitizeBootLogLine (some line) outputSize = some output ∧
      output.bytes.length ≤ outputSize ∧
      (∀ before address behind c, output.chars = before ++ address ++ c :: behind →
        startsURL address = true → (∀ d ∈ address, endsURL d = false) → isMark c = false) ∧
      ((segments line.chars).flatMap Segment.source = line.chars ∧
        (∀ token, .address token ∈ segments line.chars →
          startsURL token = true ∧ ∀ c ∈ token, endsURL c = false) ∧
        output.chars <+: (segments line.chars).flatMap Segment.shown ∧
        (((segments line.chars).flatMap Segment.shown).length < outputSize →
          output.chars = (segments line.chars).flatMap Segment.shown)) ∧
      (∀ other, SameUpToMarks line other →
        sanitizeBootLogLine (some other) outputSize = some output) ∧
      sanitizeBootLogLine (some output) outputSize = some output := by
  have emits := emitted_eq_segments line.chars
  have shown_all : (segments line.chars).flatMap Segment.shown =
      (emitted false false line.chars).flatten := by
    rw [emits, List.flatMap_def, List.flatMap_def, List.flatten_flatten, List.map_map]
    rfl
  let output : CString := ⟨fill outputSize [] (emitted false false line.chars), by
    rw [← scan_eq_fill]
    exact nul_not_mem_scan outputSize line⟩
  have pre : output.chars <+: (emitted false false line.chars).flatten := fill_isPrefix [] _
  have cleaned := clean_isPrefix (clean_emitted false line.chars).1 pre
  have short : output.chars.length < outputSize := fill_length [] _ room
  refine ⟨output, sanitize_eq_some room rfl, ?_, ?_,
    ⟨segments_source _, fun _ => segments_address, ?_, ?_⟩, ?_, ?_⟩
  · rw [CString.bytes, List.length_append, List.length_singleton]
    exact short
  · intro before address behind c split starts still
    exact not_isMark_of_clean (split ▸ cleaned) starts still
  · rw [shown_all]
    exact pre
  · rw [shown_all]
    exact fill_fits [] _
  · intro other same
    refine sanitize_eq_some room ?_
    have chunks (l : CString) : emitted false false l.chars =
        ((segments l.chars).map Segment.upToMark).flatMap Segment.chunks := by
      rw [emitted_eq_segments, List.flatMap_map]
      simp only [chunks_upToMark]
    change fill outputSize [] (emitted false false line.chars) = _
    rw [chunks line, same, ← chunks other]
  · refine sanitize_eq_some room ?_
    have whole : (output.chars.map ([·])).flatten = output.chars := by
      rw [← List.flatMap_def, List.flatMap_singleton']
    rw [emitted_of_clean cleaned, fill_fits [] _ (by rw [List.nil_append, whole]; exact short),
      List.nil_append, whole]

def keyLine : CString := ⟨"http://a/?key".toList, by decide⟩

def pinLine : CString := ⟨"http://a/?pin=22".toList, by decide⟩

/-- Two queries leave one log line. -/
theorem sanitizeBootLogLine_sound_query :
    sanitizeBootLogLine (some keyLine) 64 = sanitizeBootLogLine (some pinLine) 64 := by
  obtain ⟨output, here, -, -, -, twin, -⟩ := sanitizeBootLogLine_sound keyLine 64 (by decide)
  have same : SameUpToMarks keyLine pinLine := by
    rw [SameUpToMarks, segments_single (by decide) (by decide),
      segments_single (by decide) (by decide)]
    decide
  rw [here, twin _ same]

end BlinkerFluid.BootLogTokens
