import BlinkerFluid.NetworkRules
import BlinkerFluid.CosmeticRules

/-! The reader of the hosts-format file, with the position arithmetic of its loop.
The loop visits the lines of the file one after the other, and the hosts it stores
are those that a line names, on its own or behind one of three addresses. -/

namespace BlinkerFluid.HostsFile
open ByteString ContentFilter CosmeticFilter CosmeticRules NetworkRules

/-- `text.find('\n', pos)`. -/
def findLineFeed (text : Bytes) (pos : ℕ) : Option ℕ :=
  ((text.drop pos).idxOf? '\n').map (pos + ·)

/-- The line that starts at `pos`. -/
def lineAt (text : Bytes) (pos : ℕ) : Bytes :=
  match findLineFeed text pos with
  | some eol => (text.drop pos).take (eol - pos)
  | none => text.drop pos

/-- Where the loop goes on after the line that starts at `pos`. -/
def nextAt (text : Bytes) (pos : ℕ) : ℕ :=
  match findLineFeed text pos with
  | some eol => eol + 1
  | none => text.length

theorem findLineFeed_ge {text : Bytes} {pos eol : ℕ} (found : findLineFeed text pos = some eol) :
    pos ≤ eol := by
  obtain ⟨n, -, rfl⟩ := Option.map_eq_some_iff.mp found
  exact Nat.le_add_right pos n

theorem lt_nextAt {text : Bytes} {pos : ℕ} (more : pos < text.length) : pos < nextAt text pos := by
  unfold nextAt
  split
  · exact Nat.lt_succ_of_le (findLineFeed_ge ‹_›)
  · exact more

/-- The loop of `LoadUserListFromDisk` from `pos` on. -/
def readFrom (text : Bytes) (rules : BlinkerContentFilter) (pos : ℕ) : BlinkerContentFilter :=
  if pos < text.length then
    readFrom text (parseHostsLine rules (lineAt text pos)) (nextAt text pos)
  else rules
termination_by text.length - pos
decreasing_by
  have := lt_nextAt ‹pos < text.length›
  omega

/-- The lines that the loop takes up, in their order. -/
def linesFrom (text : Bytes) (pos : ℕ) : List Bytes :=
  if pos < text.length then lineAt text pos :: linesFrom text (nextAt text pos) else []
termination_by text.length - pos
decreasing_by
  have := lt_nextAt ‹pos < text.length›
  omega

/-- What the loop keeps of a line: no comment, no surrounding blanks. -/
def stripped (line : Bytes) : Bytes := trim isLineBlank (line.takeWhile (· ≠ '#'))

def hostsAddresses : List Bytes := ["0.0.0.0".toList, "127.0.0.1".toList, "::1".toList]

/-- The line is a bare domain token that stands for `host`, or an address, blanks
and such a token. -/
def NamesHost (line host : Bytes) : Prop :=
  looksLikeDomain host = true ∧ ∃ token, normalizeHost token = host ∧
    (stripped line = token ∨
      ∃ ip ∈ hostsAddresses, ∃ blanks, blanks ≠ [] ∧ (∀ c ∈ blanks, isHostsBlank c = true) ∧
        stripped line = ip ++ blanks ++ token)

section Lines

theorem line_induction {motive : Bytes → Prop} (nil : motive [])
    (last : ∀ line, line ≠ [] → '\n' ∉ line → motive line)
    (line : ∀ line rest, '\n' ∉ line → motive rest → motive (line ++ '\n' :: rest))
    (text : Bytes) : motive text := by
  by_cases ended : '\n' ∈ text
  · obtain ⟨first, rest, split, single⟩ := List.eq_append_cons_of_mem ended
    exact split ▸ line first rest single (line_induction nil last line rest)
  · by_cases empty : text = []
    · exact empty ▸ nil
    · exact last text empty ended
termination_by text.length
decreasing_by
  rw [split, List.length_append, List.length_cons]
  omega

theorem fileLines_last {line : Bytes} (some_text : line ≠ []) (single : '\n' ∉ line) :
    fileLines line = [line] := by
  simp [fileLines, List.splitOn_eq_singleton single, some_text]

theorem fileLines_line {line rest : Bytes} (single : '\n' ∉ line) :
    fileLines (line ++ '\n' :: rest) = line :: fileLines rest := by
  have pieces := List.splitOn_append_cons_self_of_not_mem single rest
  have some_piece := List.splitOn_ne_nil '\n' rest
  have last : (line :: rest.splitOn '\n').getLast? = (rest.splitOn '\n').getLast? := by
    rw [List.getLast?_cons_of_ne_nil some_piece]
  simp only [fileLines, pieces, last, List.dropLast_cons_of_ne_nil some_piece]
  split_ifs <;> rfl

/-- Every line of a text is taken exactly once: put together they are the text, up
to a line feed that the last line lacks. -/
theorem fileText_fileLines (text : Bytes) :
    fileText (fileLines text) = text ∨ fileText (fileLines text) = text ++ ['\n'] := by
  induction text using line_induction with
  | nil => exact .inl rfl
  | last line some_text single =>
    right
    rw [fileLines_last some_text single]
    simp [fileText]
  | line line rest single ih =>
    have first : fileText (line :: fileLines rest) = line ++ '\n' :: fileText (fileLines rest) := by
      simp [fileText]
    rw [fileLines_line single, first]
    rcases ih with same | ended
    · exact .inl (by rw [same])
    · exact .inr (by rw [ended, List.append_assoc, List.cons_append])

theorem single_of_mem_fileLines {text line : Bytes} (mem : line ∈ fileLines text) :
    '\n' ∉ line := by
  induction text using line_induction with
  | nil => simp [fileLines] at mem
  | last whole some_text single =>
    rw [fileLines_last some_text single, List.mem_singleton] at mem
    exact mem ▸ single
  | line first rest single ih =>
    rw [fileLines_line single, List.mem_cons] at mem
    rcases mem with rfl | mem
    · exact single
    · exact ih mem

theorem findLineFeed_none {text : Bytes} {pos : ℕ} (single : '\n' ∉ text.drop pos) :
    findLineFeed text pos = none := by
  simp [findLineFeed, List.idxOf?_eq_none_iff.mpr single]

theorem findLineFeed_line {text line rest : Bytes} {pos : ℕ} (single : '\n' ∉ line)
    (split : text.drop pos = line ++ '\n' :: rest) :
    findLineFeed text pos = some (pos + line.length) := by
  have found : (line ++ '\n' :: rest).idxOf? '\n' = some line.length := by
    clear split
    induction line with
    | nil => simp [List.idxOf?_cons]
    | cons c line ih =>
      rw [List.mem_cons, not_or] at single
      simp [List.idxOf?_cons, Ne.symm single.1, ih single.2]
  rw [findLineFeed, split, found, Option.map_some]

theorem linesFrom_end {text : Bytes} {pos : ℕ} (done : text.length ≤ pos) :
    linesFrom text pos = [] := by
  rw [linesFrom, if_neg (by omega)]

theorem linesFrom_eq (text : Bytes) (pos : ℕ) : linesFrom text pos = fileLines (text.drop pos) := by
  induction remaining : text.drop pos using line_induction generalizing pos with
  | nil => exact linesFrom_end (List.drop_eq_nil_iff.mp remaining)
  | last line some_text single =>
    have more : pos < text.length := by
      by_contra done
      exact some_text (remaining ▸ List.drop_eq_nil_iff.mpr (by omega))
    have none := findLineFeed_none (remaining ▸ single)
    rw [linesFrom, if_pos more, lineAt, nextAt, none]
    simp only [remaining, linesFrom_end (Nat.le_refl _), fileLines_last some_text single]
  | line line rest single ih =>
    have more : pos < text.length := by
      by_contra done
      rw [List.drop_eq_nil_iff.mpr (by omega)] at remaining
      exact absurd remaining (by simp)
    have found := findLineFeed_line single remaining
    have behind : text.drop (pos + line.length + 1) = rest := by
      rw [Nat.add_assoc, ← List.drop_drop, remaining]
      simp
    rw [linesFrom, if_pos more, lineAt, nextAt, found]
    simp only [remaining, ih _ behind, fileLines_line single, Nat.add_sub_cancel_left,
      List.take_left]

/-- The loop works off the lines it takes up, each once and in their order. -/
theorem readFrom_eq (text : Bytes) (rules : BlinkerContentFilter) (pos : ℕ) :
    readFrom text rules pos = (linesFrom text pos).foldl parseHostsLine rules := by
  induction rules, pos using readFrom.induct text with
  | case1 rules pos more ih =>
    rw [readFrom, if_pos more, linesFrom, if_pos more, ih, List.foldl_cons]
  | case2 rules pos done =>
    rw [readFrom, if_neg done, linesFrom, if_neg done, List.foldl_nil]

end Lines

section Entries

variable {line token host : Bytes}

theorem isHostsBlank_not_domain {c : Char} (blank : isHostsBlank c = true) : ¬ IsDomainChar c := by
  rcases (by simpa [isHostsBlank] using blank : c = ' ' ∨ c = '\t') with rfl | rfl <;> decide

theorem not_blank_of_stands (domain : looksLikeDomain host = true)
    (stands : normalizeHost token = host) : ∀ c ∈ token, isHostsBlank c = false := by
  intro c mem
  by_contra blank
  exact isHostsBlank_not_domain (by simpa using blank)
    (bare_of_looksLikeDomain domain stands c mem)

theorem hostsAddresses_plain : ∀ ip ∈ hostsAddresses, ∀ c ∈ ip, isHostsBlank c = false := by
  intro ip known c mem
  have all : (hostsAddresses.all fun ip => ip.all fun c => !isHostsBlank c) = true := by decide
  simpa using List.all_eq_true.mp (List.all_eq_true.mp all ip known) c mem

/-- The first word of a line, up to a space or a tab. -/
def firstWord (line : Bytes) : Bytes := line.takeWhile fun c => !isHostsBlank c

/-- What follows the first word and the blanks behind it. -/
def behindFirstWord (line : Bytes) : Bytes :=
  (line.drop ((firstWord line).length + 1)).dropWhile isHostsBlank

theorem parseHostsLine_eq (rules : BlinkerContentFilter) (line : Bytes) :
    parseHostsLine rules line =
      if (stripped line).isEmpty then rules
      else if (firstWord (stripped line)).length < (stripped line).length ∧
          firstWord (stripped line) ∈ hostsAddresses then
        addHost rules (behindFirstWord (stripped line))
      else addHost rules (stripped line) := by
  simp only [parseHostsLine]
  rfl

theorem firstWord_plain (plain : ∀ c ∈ line, isHostsBlank c = false) : firstWord line = line :=
  List.takeWhile_eq_self_iff.mpr fun c mem => by rw [plain c mem, Bool.not_false]

theorem firstWord_spelled {ip blanks : Bytes} (plain : ∀ c ∈ ip, isHostsBlank c = false)
    (some_blank : blanks ≠ []) (blank : ∀ c ∈ blanks, isHostsBlank c = true) :
    firstWord (ip ++ blanks ++ token) = ip := by
  cases blanks with
  | nil => exact absurd rfl some_blank
  | cons b blanks =>
    have stop := blank b List.mem_cons_self
    rw [firstWord, List.append_assoc, List.takeWhile_append_of_pos fun c mem => by
      rw [plain c mem, Bool.not_false]]
    simp [stop]

theorem behindFirstWord_spelled {ip blanks : Bytes} (plain : ∀ c ∈ ip, isHostsBlank c = false)
    (some_blank : blanks ≠ []) (blank : ∀ c ∈ blanks, isHostsBlank c = true)
    (bare : ∀ c ∈ token, isHostsBlank c = false) :
    behindFirstWord (ip ++ blanks ++ token) = token := by
  rw [behindFirstWord, firstWord_spelled plain some_blank blank]
  cases blanks with
  | nil => exact absurd rfl some_blank
  | cons b blanks =>
    have behind : (ip ++ b :: blanks ++ token).drop (ip.length + 1) = blanks ++ token := by
      rw [List.append_assoc, ← List.drop_drop, List.drop_left]
      rfl
    rw [behind, List.dropWhile_append_of_pos fun c mem => blank c (List.mem_cons_of_mem _ mem)]
    cases token with
    | nil => rfl
    | cons c token =>
      rw [List.dropWhile_cons_of_neg]
      rw [bare c List.mem_cons_self]
      exact Bool.false_ne_true

theorem spelled_of_blank (more : (firstWord line).length < line.length) :
    ∃ blanks, blanks ≠ [] ∧ (∀ c ∈ blanks, isHostsBlank c = true) ∧
      line = firstWord line ++ blanks ++ behindFirstWord line := by
  have split : firstWord line ++ line.dropWhile (fun c => !isHostsBlank c) = line :=
    List.takeWhile_append_dropWhile
  cases rest : line.dropWhile (fun c => !isHostsBlank c) with
  | nil =>
    rw [rest, List.append_nil] at split
    rw [split] at more
    exact absurd more (Nat.lt_irrefl _)
  | cons b tail =>
    have blank : isHostsBlank b = true := by
      have stop := List.head?_dropWhile_not (fun c => !isHostsBlank c) line
      simpa [rest] using stop
    have behind : line.drop ((firstWord line).length + 1) = tail := by
      calc line.drop ((firstWord line).length + 1)
          = (firstWord line ++ b :: tail).drop ((firstWord line).length + 1) := by
            rw [← rest, split]
        _ = tail := by simp
    refine ⟨b :: tail.takeWhile isHostsBlank, by simp, ?_, ?_⟩
    · intro c mem
      rcases List.mem_cons.mp mem with rfl | mem
      · exact blank
      · exact List.mem_takeWhile_imp mem
    · rw [behindFirstWord, behind, List.append_assoc, List.cons_append,
        List.takeWhile_append_dropWhile, ← rest, split]

theorem blocked_parseHostsLine (rules : BlinkerContentFilter) (line host : Bytes) :
    host ∈ (parseHostsLine rules line).blockedHosts ↔
      host ∈ rules.blockedHosts ∨ NamesHost line host := by
  rw [parseHostsLine_eq]
  unfold NamesHost
  generalize stripped line = text
  split_ifs with empty addressed
  · rw [iff_self_or]
    rintro ⟨domain, token, stands, rfl | ⟨ip, _, blanks, some_blank, _, spelled⟩⟩
    · obtain rfl := List.isEmpty_iff.mp empty
      rw [← stands] at domain
      cases domain
    · rw [List.isEmpty_iff.mp empty] at spelled
      have none : blanks = [] :=
        (List.append_eq_nil_iff.mp (List.append_eq_nil_iff.mp spelled.symm).1).2
      exact absurd none some_blank
  · obtain ⟨more, address⟩ := addressed
    rw [blocked_addHost]
    refine or_congr_right ⟨?_, ?_⟩
    · rintro ⟨domain, stands⟩
      obtain ⟨blanks, some_blank, blank, spelled⟩ := spelled_of_blank more
      exact ⟨domain, _, stands, .inr ⟨_, address, blanks, some_blank, blank, spelled⟩⟩
    · rintro ⟨domain, token, stands, rfl | ⟨ip, known, blanks, some_blank, blank, rfl⟩⟩
      · rw [firstWord_plain (not_blank_of_stands domain stands)] at more
        exact absurd more (Nat.lt_irrefl _)
      · rw [behindFirstWord_spelled (hostsAddresses_plain ip known) some_blank blank
          (not_blank_of_stands domain stands)]
        exact ⟨domain, stands⟩
  · rw [blocked_addHost]
    refine or_congr_right ⟨fun ⟨domain, stands⟩ => ⟨domain, text, stands, .inl rfl⟩, ?_⟩
    rintro ⟨domain, token, stands, rfl | ⟨ip, known, blanks, some_blank, blank, rfl⟩⟩
    · exact ⟨domain, stands⟩
    · have first : firstWord (ip ++ blanks ++ token) = ip :=
        firstWord_spelled (hostsAddresses_plain ip known) some_blank blank
      have pos := List.length_pos_of_ne_nil some_blank
      rw [first, List.length_append, List.length_append] at addressed
      exact absurd ⟨by omega, known⟩ addressed

theorem blocked_foldl_parseHostsLine (rules : BlinkerContentFilter) (lines : List Bytes)
    (host : Bytes) :
    host ∈ (lines.foldl parseHostsLine rules).blockedHosts ↔
      host ∈ rules.blockedHosts ∨ ∃ line ∈ lines, NamesHost line host := by
  induction lines generalizing rules with
  | nil => simp
  | cons line lines ih =>
    rw [List.foldl_cons, ih, blocked_parseHostsLine, or_assoc]
    simp only [List.mem_cons, exists_eq_or_imp]

end Entries

/-- After the hosts-format file is read, the blocked set is the old one and the
hosts that its lines name. The loop takes every line of the file exactly once. -/
theorem loadUserListFromDisk_blocked (user : UserData) (rules : BlinkerContentFilter) :
    let contents := user.blocklist.getD []
    let lines := linesFrom contents 0
    let loaded := loadUserListFromDisk user rules
    loaded = readFrom contents rules 0 ∧
    (fileText lines = contents ∨ fileText lines = contents ++ ['\n']) ∧
    (∀ line ∈ lines, '\n' ∉ line) ∧
    ∀ host, host ∈ loaded.blockedHosts ↔
      host ∈ rules.blockedHosts ∨ ∃ line ∈ lines, NamesHost line host := by
  intro contents lines loaded
  have taken : lines = fileLines contents := linesFrom_eq contents 0
  have read : loaded = lines.foldl parseHostsLine rules := by
    simp only [loaded, taken, contents, loadUserListFromDisk]
    cases user.blocklist <;> rfl
  refine ⟨?_, ?_, ?_, fun host => ?_⟩
  · rw [read, readFrom_eq]
  · rw [taken]
    exact fileText_fileLines contents
  · rw [taken]
    exact fun line => single_of_mem_fileLines
  · rw [read]
    exact blocked_foldl_parseHostsLine rules lines host

example : (parseHostsLine {} "0.0.0.0 \tAds.Example.test. # ad\r".toList).blockedHosts =
    {"ads.example.test".toList} := by decide

end BlinkerFluid.HostsFile
