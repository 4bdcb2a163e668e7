/-!
# Escaped text

Text that stands in HTML, between tags or in a quoted attribute, has its five special characters
written as character references. Escaping goes character by character, so the escape of a
concatenation is the concatenation of the escapes.
-/

namespace Folio.Html

def escapeChar : Char → List Char
  | '&' => ['&', 'a', 'm', 'p', ';']
  | '<' => ['&', 'l', 't', ';']
  | '>' => ['&', 'g', 't', ';']
  | '\x22' => ['&', 'q', 'u', 'o', 't', ';']
  | '\x27' => ['&', '#', '3', '9', ';']
  | c => [c]

def escapeChars (cs : List Char) : List Char :=
  cs.flatMap escapeChar

def isSpecial (c : Char) : Bool :=
  c == '&' || c == '<' || c == '>' || c == '\x22' || c == '\x27'

/-- The text with its special characters as character references. A text without any is given back
as it is. -/
def escape (s : String) : String :=
  if s.toList.any isSpecial then String.ofList (escapeChars s.toList) else s

theorem escapeChars_append (xs ys : List Char) :
    escapeChars (xs ++ ys) = escapeChars xs ++ escapeChars ys := by
  simp [escapeChars]

theorem escapeChar_of_plain {c : Char} (hc : isSpecial c = false) : escapeChar c = [c] := by
  unfold escapeChar
  split <;> simp_all [isSpecial]

theorem escapeChars_of_plain {cs : List Char} (hcs : cs.any isSpecial = false) :
    escapeChars cs = cs := by
  induction cs with
  | nil => rfl
  | cons c rest ih =>
    rw [List.any_cons, Bool.or_eq_false_iff] at hcs
    rw [escapeChars, List.flatMap_cons, escapeChar_of_plain hcs.1, ← escapeChars, ih hcs.2,
      List.singleton_append]

@[simp] theorem escape_toList (s : String) : (escape s).toList = escapeChars s.toList := by
  unfold escape
  split
  · rw [String.toList_ofList]
  · rename_i hplain
    exact (escapeChars_of_plain (by simpa using hplain)).symm

theorem escape_append (a b : String) : escape (a ++ b) = escape a ++ escape b := by
  simp [← String.toList_inj, escapeChars_append]

/-- Reads the five references back, and any other character as itself. -/
def unescapeChars : List Char → List Char
  | '&' :: 'a' :: 'm' :: 'p' :: ';' :: rest => '&' :: unescapeChars rest
  | '&' :: 'l' :: 't' :: ';' :: rest => '<' :: unescapeChars rest
  | '&' :: 'g' :: 't' :: ';' :: rest => '>' :: unescapeChars rest
  | '&' :: 'q' :: 'u' :: 'o' :: 't' :: ';' :: rest => '\x22' :: unescapeChars rest
  | '&' :: '#' :: '3' :: '9' :: ';' :: rest => '\x27' :: unescapeChars rest
  | c :: rest => c :: unescapeChars rest
  | [] => []

end Folio.Html
