import BlinkerFluid.ByteString
import BlinkerFluid.LabelSuffix

/-! The part of `GURL` the browser code reads. Parsing is not modelled: a value
carries the components a parse has produced. Equality of two `GURL`s is equality
of their specs, so a spec determines the other components of what one parser
returns. -/

namespace BlinkerFluid.WebAddress
open ByteString LabelSuffix

structure GURL where
  isValid : Bool
  spec : Bytes
  scheme : Bytes
  host : Bytes
  path : Bytes
  deriving DecidableEq

namespace GURL

/-- `GURL()`: empty and invalid. -/
def none : GURL := ⟨false, [], [], [], []⟩

def isEmpty (url : GURL) : Bool := url.spec.isEmpty

def hasHost (url : GURL) : Bool := !url.host.isEmpty

def schemeIsHTTPOrHTTPS (url : GURL) : Bool :=
  url.scheme = "http".toList || url.scheme = "https".toList

/-- A query or a reference behind `about:blank` is ignored. -/
def isAboutBlank (url : GURL) : Bool :=
  url.scheme = "about".toList && url.host.isEmpty && (url.path = "blank".toList || url.path = "blank/".toList)

/-- One trailing dot of the host is ignored; behind it the domain has to end the
host at a label boundary. -/
def domainIs (url : GURL) (domain : Bytes) : Bool :=
  let host := removeSuffixChar '.' url.host
  url.isValid && !url.host.isEmpty && domain.isSuffixOf host &&
    (host.length = domain.length || (host.drop (host.length - domain.length - 1)).head? = some '.')

/-- What stands in the canonical spec between `?` and `#`. -/
def query (url : GURL) : Bytes :=
  ((url.spec.takeWhile (· ≠ '#')).dropWhile (· ≠ '?')).drop 1

end GURL

theorem head_drop_eq_iff {c : Char} {host domain : Bytes} (hs : domain <:+ host)
    (lt : domain.length < host.length) :
    (host.drop (host.length - domain.length - 1)).head? = some c ↔ c :: domain <:+ host := by
  obtain ⟨p, rfl⟩ := hs
  rcases List.eq_nil_or_concat p with rfl | ⟨q, d, rfl⟩
  · simp at lt
  · have len : (q ++ [d] ++ domain).length - domain.length - 1 = q.length := by simp; omega
    rw [List.concat_eq_append, len, List.append_assoc, List.drop_left,
      List.singleton_append, List.head?_cons, Option.some.injEq]
    constructor
    · rintro rfl
      exact List.suffix_append q _
    · intro h
      have same := List.suffix_of_suffix_length_le h (List.suffix_append q (d :: domain)) (by simp)
      exact (List.cons.inj (same.eq_of_length (by simp))).1.symm

/-- Below a domain: the host is the domain or ends with a dot and the domain. -/
def UnderDomain (url : GURL) (domain : Bytes) : Prop :=
  url.isValid = true ∧ url.host ≠ [] ∧ IsLabelSuffix '.' domain (removeSuffixChar '.' url.host)

theorem domainIs_iff (url : GURL) (domain : Bytes) :
    url.domainIs domain = true ↔ UnderDomain url domain := by
  generalize hh : removeSuffixChar '.' url.host = host
  simp only [GURL.domainIs, UnderDomain, hh, Bool.and_eq_true, Bool.not_eq_true',
    List.isEmpty_eq_false_iff, List.isSuffixOf_iff_suffix, Bool.or_eq_true, decide_eq_true_eq,
    and_assoc]
  refine and_congr_right fun _ => and_congr_right fun _ => ?_
  constructor
  · rintro ⟨hs, len | dot⟩
    · exact .inl (hs.eq_of_length len.symm)
    · rcases hs.length_le.eq_or_lt with len | lt
      · exact .inl (hs.eq_of_length len)
      · exact .inr ((head_drop_eq_iff hs lt).mp dot)
  · intro h
    refine ⟨h.isSuffix, ?_⟩
    rcases h with rfl | h
    · exact .inl rfl
    · have lt := length_lt_of_cons_suffix h
      exact .inr ((head_drop_eq_iff ((List.suffix_cons _ _).trans h) lt).mpr h)

end BlinkerFluid.WebAddress
