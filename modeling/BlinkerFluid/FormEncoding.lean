import BlinkerFluid.ByteString
import Mathlib.Data.Nat.Basic
import Mathlib.Tactic.SplitIfs

/-! `application/x-www-form-urlencoded` as a query is read: parameters between ampersands, a plus
sign for a space, and bytes written as percent triplets. -/

namespace BlinkerFluid.FormEncoding
open ByteString

def hexDigit (n : ℕ) : Char := Char.ofNat (if n < 10 then 48 + n else 55 + n)

def hexValue (c : Char) : Option ℕ :=
  if '0' ≤ c ∧ c ≤ '9' then some (c.toNat - 48)
  else if 'A' ≤ c ∧ c ≤ 'F' then some (c.toNat - 55)
  else if 'a' ≤ c ∧ c ≤ 'f' then some (c.toNat - 87)
  else none

def percentTriplet (c : Char) : Bytes := ['%', hexDigit (c.toNat / 16), hexDigit (c.toNat % 16)]

/-- Characters that are kept stand for themselves, the others are written as triplets. -/
def percentEncode (keep : Char → Bool) (text : Bytes) : Bytes :=
  text.flatMap fun c => if keep c then [c] else percentTriplet c

/-- As `percentEncode`, and a space is written as a plus sign. -/
def formEncode (keep : Char → Bool) (text : Bytes) : Bytes :=
  text.flatMap fun c => if c = ' ' then ['+'] else if keep c then [c] else percentTriplet c

def percentDecode : Bytes → Bytes
  | '%' :: high :: low :: rest =>
    match hexValue high, hexValue low with
    | some a, some b => Char.ofNat (16 * a + b) :: percentDecode rest
    | _, _ => '%' :: percentDecode (high :: low :: rest)
  | c :: rest => c :: percentDecode rest
  | [] => []

def plusToSpace (c : Char) : Char := if c = '+' then ' ' else c

def formDecode (text : Bytes) : Bytes := percentDecode (text.map plusToSpace)

/-- The name before the first equals sign and the value behind it. -/
def formPair (sequence : Bytes) : Bytes × Bytes :=
  (formDecode (sequence.takeWhile (· ≠ '=')),
    formDecode ((sequence.dropWhile (· ≠ '=')).drop 1))

def formPairs (sequences : List Bytes) : List (Bytes × Bytes) :=
  (sequences.filter (!·.isEmpty)).map formPair

def formParse (query : Bytes) : List (Bytes × Bytes) := formPairs (query.splitOn '&')

/-- What stands in a URL between the first question mark and the fragment. -/
def queryOf (url : Bytes) : Bytes := ((url.takeWhile (· ≠ '#')).dropWhile (· ≠ '?')).drop 1

section Decode

theorem hexValue_hexDigit {n : ℕ} (digit : n < 16) : hexValue (hexDigit n) = some n := by
  have all : ∀ n < 16, hexValue (hexDigit n) = some n := by decide
  exact all n digit

theorem hexDigit_plain {n : ℕ} (digit : n < 16) : hexDigit n ∉ ['%', '+', '&', '#'] := by
  have all : ∀ n < 16, hexDigit n ∉ ['%', '+', '&', '#'] := by decide
  exact all n digit

theorem percentDecode_cons {c : Char} (plain : c ≠ '%') (rest : Bytes) :
    percentDecode (c :: rest) = c :: percentDecode rest := by
  rw [percentDecode]
  rintro high low rest' rfl
  exact absurd rfl plain

theorem formDecode_cons {c : Char} (plain : c ≠ '%') (rest : Bytes) :
    formDecode (c :: rest) = plusToSpace c :: formDecode rest := by
  rw [formDecode, List.map_cons, percentDecode_cons, formDecode]
  unfold plusToSpace
  split_ifs
  · decide
  · exact plain

theorem plusToSpace_plain {c : Char} (plain : c ∉ ['%', '+', '&', '#']) : plusToSpace c = c := by
  refine if_neg fun plus => plain ?_
  rw [plus]
  decide

theorem formDecode_triplet {c : Char} (byte : c.toNat < 256) (rest : Bytes) :
    formDecode (percentTriplet c ++ rest) = c :: formDecode rest := by
  have high : c.toNat / 16 < 16 := by omega
  have low : c.toNat % 16 < 16 := Nat.mod_lt _ (by omega)
  have whole : 16 * (c.toNat / 16) + c.toNat % 16 = c.toNat := Nat.div_add_mod _ _
  have percent : plusToSpace '%' = '%' := rfl
  simp only [percentTriplet, formDecode, List.cons_append, List.nil_append, List.map_cons, percent,
    plusToSpace_plain (hexDigit_plain high), plusToSpace_plain (hexDigit_plain low)]
  rw [percentDecode, hexValue_hexDigit high, hexValue_hexDigit low]
  simp only [whole, Char.ofNat_toNat]

theorem formDecode_flatMap {spell : Char → Bytes} {read : Char → Char} {text : Bytes}
    (each : ∀ c ∈ text, ∀ rest, formDecode (spell c ++ rest) = read c :: formDecode rest) :
    formDecode (text.flatMap spell) = text.map read := by
  induction text with
  | nil => rfl
  | cons c text ih =>
    obtain ⟨first, others⟩ := List.forall_mem_cons.mp each
    rw [List.flatMap_cons, first, ih others, List.map_cons]

/-- Percent encoding that keeps no percent sign is read back up to the plus signs it keeps. -/
theorem formDecode_percentEncode {keep : Char → Bool} (escapes : keep '%' = false)
    {text : Bytes} (bytes : ∀ c ∈ text, c.toNat < 256) :
    formDecode (percentEncode keep text) =
      text.map fun c => if keep c then plusToSpace c else c := by
  refine formDecode_flatMap fun c mem rest => ?_
  cases kept : keep c with
  | false => exact formDecode_triplet (bytes c mem) rest
  | true =>
    refine formDecode_cons ?_ rest
    rintro rfl
    rw [escapes] at kept
    cases kept

theorem formDecode_formEncode {keep : Char → Bool} (escapes : keep '%' = false)
    (escapesPlus : keep '+' = false) {text : Bytes} (bytes : ∀ c ∈ text, c.toNat < 256) :
    formDecode (formEncode keep text) = text := by
  have each : ∀ c ∈ text, ∀ rest, formDecode
      ((if c = ' ' then ['+'] else if keep c then [c] else percentTriplet c) ++ rest) =
        id c :: formDecode rest := by
    intro c mem rest
    split_ifs with space kept
    · rw [space]
      exact formDecode_cons (by decide) rest
    · have plain : c ≠ '%' ∧ c ≠ '+' := by
        constructor <;>
        · rintro rfl
          simp_all
      refine (formDecode_cons plain.1 rest).trans ?_
      rw [plusToSpace, if_neg plain.2, id]
    · exact formDecode_triplet (bytes c mem) rest
  rw [formEncode, formDecode_flatMap each, List.map_id]

theorem not_mem_percentTriplet {c special : Char} (byte : c.toNat < 256)
    (separates : special = '&' ∨ special = '#') : special ∉ percentTriplet c := by
  have digits {n : ℕ} (digit : n < 16) : special ≠ hexDigit n := by
    rintro rfl
    refine hexDigit_plain digit ?_
    rcases separates with same | same <;>
    · rw [same]
      decide
  simp only [percentTriplet, List.mem_cons, List.not_mem_nil, or_false, not_or]
  refine ⟨?_, digits (by omega), digits (Nat.mod_lt _ (by omega))⟩
  rcases separates with rfl | rfl <;> decide

theorem mem_percentEncode_iff {keep : Char → Bool} {text : Bytes}
    (bytes : ∀ c ∈ text, c.toNat < 256) {c : Char} (separates : c = '&' ∨ c = '#') :
    c ∈ percentEncode keep text ↔ keep c = true ∧ c ∈ text := by
  rw [percentEncode, List.mem_flatMap]
  constructor
  · rintro ⟨other, mem, inside⟩
    split_ifs at inside with kept
    · rw [List.mem_singleton.mp inside]
      exact ⟨kept, mem⟩
    · exact absurd inside (not_mem_percentTriplet (bytes other mem) separates)
  · rintro ⟨kept, mem⟩
    exact ⟨c, mem, by rw [if_pos kept]; exact List.mem_singleton_self c⟩

theorem not_mem_formEncode {keep : Char → Bool} {text : Bytes}
    (bytes : ∀ c ∈ text, c.toNat < 256) {c : Char} (separates : c = '&' ∨ c = '#')
    (escapes : keep c = false) : c ∉ formEncode keep text := by
  rw [formEncode, List.mem_flatMap]
  rintro ⟨other, mem, inside⟩
  split_ifs at inside with space kept
  · rw [List.mem_singleton.mp inside] at separates
    revert separates
    decide
  · rw [List.mem_singleton.mp inside, kept] at escapes
    cases escapes
  · exact not_mem_percentTriplet (bytes other mem) separates inside

end Decode

/-- A URL that ends in the name of a query parameter and its equals sign. -/
structure Template where
  address : Bytes
  /-- The parameters before it, with their ampersands. -/
  front : Bytes
  name : Bytes
  noQuery : '?' ∉ address ∧ '#' ∉ address
  complete : (front = [] ∨ front.getLast? = some '&') ∧ '#' ∉ front
  named : '&' ∉ name ∧ '=' ∉ name ∧ '#' ∉ name

def Template.text (t : Template) : Bytes := t.address ++ '?' :: (t.front ++ (t.name ++ ['=']))

def templateParts (url : Bytes) : Bytes × Bytes × Bytes :=
  let query := (url.dropWhile (· ≠ '?')).drop 1
  let front := query.rdropWhile (· ≠ '&')
  (url.takeWhile (· ≠ '?'), front, (query.drop front.length).dropLast)

def isTemplate (url : Bytes) : Bool :=
  match templateParts url with
  | (address, front, name) =>
    decide (('?' ∉ address ∧ '#' ∉ address) ∧
      ((front = [] ∨ front.getLast? = some '&') ∧ '#' ∉ front) ∧
      ('&' ∉ name ∧ '=' ∉ name ∧ '#' ∉ name) ∧
      address ++ '?' :: (front ++ (name ++ ['='])) = url)

theorem exists_template {url : Bytes} (checked : isTemplate url = true) :
    ∃ t : Template, t.text = url := by
  obtain ⟨noQuery, complete, named, spelled⟩ := of_decide_eq_true checked
  exact ⟨⟨_, _, _, noQuery, complete, named⟩, spelled⟩

def withLastValue (value : Bytes) (pairs : List (Bytes × Bytes)) : List (Bytes × Bytes) :=
  pairs.dropLast ++ pairs.getLast?.toList.map fun pair => (pair.1, value)

section Template

theorem formParse_append (front rest : Bytes) :
    formParse (front ++ '&' :: rest) = formParse front ++ formParse rest := by
  rw [formParse, List.splitOn_append_cons_self, formPairs, List.filter_append, List.map_append]
  rfl

theorem formParse_front {front : Bytes} (complete : front = [] ∨ front.getLast? = some '&')
    (rest : Bytes) : formParse (front ++ rest) = formParse front ++ formParse rest := by
  rcases complete with rfl | last
  · rfl
  · obtain ⟨before, rfl⟩ : ∃ before, front = before ++ ['&'] :=
      ⟨_, (List.dropLast_append_getLast? _ last).symm⟩
    have ended : formParse (before ++ ['&']) = formParse before ++ formParse [] :=
      formParse_append before []
    have none : formParse [] = [] := rfl
    rw [List.append_assoc, List.singleton_append, formParse_append, ended, none, List.append_nil]

theorem formParse_parameter {name value : Bytes} (named : '&' ∉ name ∧ '=' ∉ name)
    (single : '&' ∉ value) :
    formParse (name ++ '=' :: value) = [(formDecode name, formDecode value)] := by
  have unsplit : '&' ∉ name ++ '=' :: value := by
    rw [List.mem_append, List.mem_cons]
    rintro (inside | same | inside)
    · exact named.1 inside
    · cases same
    · exact single inside
  have before : ∀ c ∈ name, decide (c ≠ '=') = true := fun c mem =>
    decide_eq_true fun same => named.2 (same ▸ mem)
  have some_char : (name ++ '=' :: value).isEmpty = false := by
    cases name <;> rfl
  rw [formParse, List.splitOn_eq_singleton unsplit, formPairs, List.filter_singleton, some_char]
  simp only [Bool.not_false, cond_true, List.map_cons, List.map_nil, formPair]
  rw [List.takeWhile_append_of_pos before, List.dropWhile_append_of_pos before]
  simp

theorem withLastValue_append (pairs : List (Bytes × Bytes)) (name old value : Bytes) :
    withLastValue value (pairs ++ [(name, old)]) = pairs ++ [(name, value)] := by
  simp [withLastValue]

variable {t : Template}

theorem queryOf_text {value : Bytes} (unfragmented : '#' ∉ value) :
    queryOf (t.text ++ value) = t.front ++ (t.name ++ '=' :: value) := by
  have spelled : t.text ++ value = t.address ++ '?' :: (t.front ++ (t.name ++ '=' :: value)) := by
    simp [Template.text]
  have whole : ∀ c ∈ t.address ++ '?' :: (t.front ++ (t.name ++ '=' :: value)),
      decide (c ≠ '#') = true := by
    intro c mem
    refine decide_eq_true ?_
    rintro rfl
    simp only [List.mem_append, List.mem_cons] at mem
    rcases mem with inside | same | inside | inside | same | inside
    · exact t.noQuery.2 inside
    · cases same
    · exact t.complete.2 inside
    · exact t.named.2.2 inside
    · cases same
    · exact unfragmented inside
  have before : ∀ c ∈ t.address, decide (c ≠ '?') = true := fun c mem =>
    decide_eq_true fun same => t.noQuery.1 (same ▸ mem)
  rw [queryOf, spelled, List.takeWhile_eq_self_iff.mpr whole, List.dropWhile_append_of_pos before]
  simp

theorem formParse_text {value : Bytes} (unfragmented : '#' ∉ value) (single : '&' ∉ value) :
    formParse (queryOf (t.text ++ value)) =
      formParse t.front ++ [(formDecode t.name, formDecode value)] := by
  rw [queryOf_text unfragmented, formParse_front t.complete.1,
    formParse_parameter ⟨t.named.1, t.named.2.1⟩ single]

theorem formParse_text_nil :
    formParse (queryOf t.text) = formParse t.front ++ [(formDecode t.name, [])] := by
  have empty : formParse (queryOf (t.text ++ [])) =
      formParse t.front ++ [(formDecode t.name, formDecode [])] :=
    formParse_text List.not_mem_nil List.not_mem_nil
  rwa [List.append_nil] at empty

theorem formParse_single_iff {value text : Bytes} (unfragmented : '#' ∉ value)
    (single : '&' ∉ value) :
    formParse (queryOf (t.text ++ value)) = withLastValue text (formParse (queryOf t.text)) ↔
      formDecode value = text := by
  rw [formParse_text unfragmented single, formParse_text_nil, withLastValue_append,
    List.append_cancel_left_eq]
  simp

theorem formParse_split {first others : Bytes} (unfragmented : '#' ∉ first ++ '&' :: others)
    (single : '&' ∉ first) :
    formParse (queryOf (t.text ++ (first ++ '&' :: others))) =
      formParse t.front ++ (formDecode t.name, formDecode first) :: formParse others := by
  have regrouped : t.name ++ '=' :: (first ++ '&' :: others) =
      (t.name ++ '=' :: first) ++ '&' :: others := by simp
  rw [queryOf_text unfragmented, formParse_front t.complete.1, regrouped, formParse_append,
    formParse_parameter ⟨t.named.1, t.named.2.1⟩ single]
  rfl

/-- Percent encoding carries a text through a query exactly if the text has no ampersand and no
plus sign that is kept. -/
theorem formParse_percentEncode_iff {keep : Char → Bool}
    (escapes : keep '%' = false ∧ keep '#' = false) {text : Bytes}
    (bytes : ∀ c ∈ text, c.toNat < 256) :
    formParse (queryOf (t.text ++ percentEncode keep text)) =
        withLastValue text (formParse (queryOf t.text)) ↔
      (keep '&' = true → '&' ∉ text) ∧ (keep '+' = true → '+' ∉ text) := by
  have unfragmented : '#' ∉ percentEncode keep text := fun inside => by
    have kept := ((mem_percentEncode_iff bytes (.inr rfl)).mp inside).1
    rw [escapes.2] at kept
    cases kept
  by_cases split : '&' ∈ percentEncode keep text
  · obtain ⟨kept, inside⟩ := (mem_percentEncode_iff bytes (.inl rfl)).mp split
    refine iff_of_false ?_ fun both => both.1 kept inside
    obtain ⟨first, others, rfl, single⟩ := List.eq_append_cons_of_mem inside
    have firstBytes : ∀ c ∈ first, c.toNat < 256 := fun c mem =>
      bytes c (List.mem_append_left _ mem)
    have spelled : percentEncode keep (first ++ '&' :: others) =
        percentEncode keep first ++ '&' :: percentEncode keep others := by
      simp [percentEncode, kept]
    have unsplit : '&' ∉ percentEncode keep first := fun inside =>
      single ((mem_percentEncode_iff firstBytes (.inl rfl)).mp inside).2
    rw [spelled] at unfragmented ⊢
    rw [formParse_split unfragmented unsplit, formParse_text_nil, withLastValue_append,
      List.append_cancel_left_eq, formDecode_percentEncode escapes.1 firstBytes]
    intro same
    have value := congrArg (fun pair => pair.2.length) (List.cons.inj same).1
    simp only [List.length_map, List.length_append, List.length_cons] at value
    omega
  · have single : keep '&' = true → '&' ∉ text := fun kept inside =>
      split ((mem_percentEncode_iff bytes (.inl rfl)).mpr ⟨kept, inside⟩)
    rw [formParse_single_iff unfragmented split, formDecode_percentEncode escapes.1 bytes]
    refine Iff.trans ?_ (and_iff_right single).symm
    nth_rewrite 2 [← List.map_id text]
    rw [List.map_inj_left]
    constructor
    · intro each kept inside
      have plus := each '+' inside
      rw [if_pos kept] at plus
      revert plus
      decide
    · intro noPlus c mem
      split_ifs with kept
      · refine if_neg ?_
        rintro rfl
        exact noPlus kept mem
      · rfl

theorem formParse_formEncode {keep : Char → Bool}
    (escapes : keep '%' = false ∧ keep '#' = false ∧ keep '&' = false ∧ keep '+' = false)
    {text : Bytes} (bytes : ∀ c ∈ text, c.toNat < 256) :
    formParse (queryOf (t.text ++ formEncode keep text)) =
      withLastValue text (formParse (queryOf t.text)) := by
  obtain ⟨percent, fragment, ampersand, plus⟩ := escapes
  rw [formParse_single_iff (not_mem_formEncode bytes (.inr rfl) fragment)
    (not_mem_formEncode bytes (.inl rfl) ampersand)]
  exact formDecode_formEncode percent plus bytes

end Template

end BlinkerFluid.FormEncoding
