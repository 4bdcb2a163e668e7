import Folio.Markdown.Scan

/-!
# HTML in Markdown

Lines that begin with certain pieces of HTML begin a block of HTML, and some of these blocks end at a
piece of their own. Within text, a tag, a comment, an instruction, a declaration or a stretch of
character data is passed on as it is, except that the pieces of lines that belong to containers are
left out of tags.
-/

namespace Folio.Markdown

open Folio.Text

/-- The elements whose contents are kept up to the tag that ends them. -/
def rawElements : List String :=
  ["pre", "style", "script", "textarea"]

def blockElements : List String := [
  "address", "article", "aside", "base", "basefont", "blockquote", "body", "caption", "center",
  "col", "colgroup", "dd", "details", "dialog", "dir", "div", "dl", "dt", "fieldset", "figcaption",
  "figure", "footer", "form", "frame", "frameset", "h1", "h2", "h3", "h4", "h5", "h6", "head",
  "header", "hr", "html", "iframe", "legend", "li", "link", "main", "menu", "menuitem", "nav",
  "noframes", "ol", "optgroup", "option", "p", "param", "search", "section", "summary", "table",
  "tbody", "td", "tfoot", "th", "thead", "title", "tr", "track", "ul"]

/-- Whether the text behind an angle bracket begins with the name of an element, ended by a blank, by
the end of the text or by the end of the tag. -/
def startsElement (cs : List Char) (name : String) : Bool :=
  eqIgnoringCase (cs.take name.length) name.toList &&
    match cs.drop name.length with
    | [] => true
    | c :: _ => isAsciiBlank c || c == '>'

/-- What ends the block of HTML that the text behind an angle bracket begins, if it is one with an
end of its own. -/
def blockEnd? (cs : List Char) : Option (List Char) :=
  match rawElements.find? (startsElement cs) with
  | some name => some ("</" ++ name ++ ">").toList
  | none =>
    match cs with
    | '!' :: '-' :: '-' :: _ => some ['-', '-', '>']
    | '?' :: _ => some ['?', '>']
    | '!' :: '[' :: 'C' :: 'D' :: 'A' :: 'T' :: 'A' :: '[' :: _ => some [']', ']', '>']
    | '!' :: c :: _ => if isLetter c then some ['>'] else none
    | _ => none

def startsBlockElement (cs : List Char) : Bool :=
  let tail := (after? '/' cs).getD cs
  let name := tail.takeWhile isLetterOrDigit
  blockElements.any (fun known => eqIgnoringCase name known.toList) &&
    match tail.drop name.length with
    | [] => true
    | '/' :: '>' :: _ => true
    | c :: _ => c == ' ' || c == '\t' || isLineEnd c || c == '>'

abbrev Taken := List Char × List Char

def Taken.andThen (first : Taken) (more : List Char → Option Taken) : Option Taken :=
  (more first.2).map fun (text, rest) => (first.1 ++ text, rest)

def takeAll (property : Char → Bool) (cs : List Char) : Taken :=
  (cs.takeWhile property, cs.dropWhile property)

def takeChar (c : Char) : List Char → Option Taken
  | [] => none
  | d :: rest => if d == c then some ([c], rest) else none

/-- What remains behind the beginning of a line within a tag, none where tags must stay on one line.
-/
abbrev NewLine := Option (List Char → List Char)

/-- Takes the end of a line, and leaves out what the next line begins with. -/
def takeLineEnd (newLine : NewLine) (cs : List Char) : Option Taken := do
  let skip ← newLine
  let rest ← afterLineEnd? cs
  some (cs.take (cs.length - rest.length), skip rest)

def takeBlanks (newLine : NewLine) : Nat → List Char → Option Taken
  | 0, cs => some ([], cs)
  | fuel + 1, cs =>
    match cs with
    | [] => some ([], [])
    | c :: rest =>
      if isLineBlank c then Taken.andThen ([c], rest) (takeBlanks newLine fuel)
      else if isLineEnd c then
        (takeLineEnd newLine (c :: rest)).bind (·.andThen (takeBlanks newLine fuel))
      else some ([], c :: rest)

/-- Takes a value up to the quote that closes it, the quote included. -/
def takeQuoted (newLine : NewLine) (quote : Char) : Nat → List Char → Option Taken
  | 0, _ => none
  | fuel + 1, cs =>
    match cs with
    | [] => none
    | c :: rest =>
      if c == quote then some ([c], rest)
      else if isLineEnd c then
        (takeLineEnd newLine (c :: rest)).bind (·.andThen (takeQuoted newLine quote fuel))
      else Taken.andThen ([c], rest) (takeQuoted newLine quote fuel)

def isBareValueChar (c : Char) : Bool :=
  !(c == '\x27' || c == '\x22' || c == ' ' || c == '=' || c == '>' || c == '<' || c == '\x60' ||
    isLineEnd c)

def takeValue (newLine : NewLine) (cs : List Char) : Option Taken :=
  match cs with
  | [] => none
  | c :: rest =>
    if c == '\x22' || c == '\x27' then
      Taken.andThen ([c], rest) (takeQuoted newLine c (rest.length + 1))
    else if isBareValueChar c then some (takeAll isBareValueChar (c :: rest))
    else none

def takeAttributeName (cs : List Char) : Option Taken :=
  match cs with
  | [] => none
  | c :: rest =>
    if isLetter c || c == '_' || c == ':' then
      let (name, rest) := takeAll
        (fun d => isLetterOrDigit d || d == '_' || d == ':' || d == '.' || d == '-') rest
      some (c :: name, rest)
    else none

/-- Takes an attribute. The blanks behind a name without a value are left for the next attribute. -/
def takeAttribute (newLine : NewLine) (cs : List Char) : Option Taken := do
  let name ← takeAttributeName cs
  let fuel := name.2.length + 1
  let blanks ← takeBlanks newLine fuel name.2
  match blanks.2 with
  | '=' :: rest =>
    name.andThen fun _ =>
      Taken.andThen (blanks.1 ++ ['='], rest) fun rest => do
        (← takeBlanks newLine fuel rest).andThen (takeValue newLine)
  | _ => some name

/-- Takes blanks and at least the line ends between attributes. The text must not end here. -/
def takeGap (newLine : NewLine) : Nat → List Char → Option Taken
  | 0, _ => none
  | fuel + 1, cs => do
    let blanks := takeAll isLineBlank cs
    match blanks.2 with
    | [] => none
    | c :: rest =>
      if isLineEnd c then
        blanks.andThen fun _ =>
          (takeLineEnd newLine (c :: rest)).bind (·.andThen (takeGap newLine fuel))
      else some blanks

def takeAttributes (newLine : NewLine) : Nat → List Char → Option Taken
  | 0, _ => none
  | fuel + 1, cs => do
    let gap ← takeGap newLine (cs.length + 1) cs
    match gap.2 with
    | '/' :: _ | '>' :: _ => some gap
    | rest =>
      if rest.length == cs.length then none
      else do
        (← gap.andThen (takeAttribute newLine)).andThen (takeAttributes newLine fuel)

def takeElementName (cs : List Char) : Option Taken :=
  match cs with
  | [] => none
  | c :: _ =>
    if isLetter c then some (takeAll (fun d => isLetterOrDigit d || d == '-') cs) else none

def takeTagEnd (mayClose : Bool) (cs : List Char) : Option Taken :=
  (takeAll isLineBlank cs).andThen fun rest =>
    match rest with
    | '/' :: rest => if mayClose then Taken.andThen (['/'], rest) (takeChar '>') else none
    | rest => takeChar '>' rest

def takeTag (newLine : NewLine) (cs : List Char) : Option Taken :=
  match cs with
  | '/' :: rest => do
    let name ← takeElementName rest
    Taken.andThen ('/' :: name.1, name.2) (takeTagEnd false)
  | _ => do
    let name ← takeElementName cs
    let tag ← name.andThen (takeAttributes newLine (cs.length + 1))
    tag.andThen (takeTagEnd true)

/-- Whether the text behind an angle bracket is a tag with nothing else on its line. -/
def isLoneTag (cs : List Char) : Bool :=
  match takeTag none cs with
  | some (_, rest) => isBlankLine rest
  | none => false

def afterPair? (a b : Char) : List Char → Option (List Char)
  | c :: d :: rest => if c == a && d == b then some rest else afterPair? a b (d :: rest)
  | _ => none

def afterCommentEnd? : List Char → Option (List Char)
  | [] => none
  | '-' :: '-' :: '>' :: rest => some rest
  | _ :: rest => afterCommentEnd? rest

/-- What remains behind a comment, given what follows its first two dashes. These may be part of its
end. -/
def afterComment? : List Char → Option (List Char)
  | '>' :: rest => some rest
  | '-' :: '>' :: rest => some rest
  | cs => afterCommentEnd? cs

/-- What remains behind a comment, a stretch of character data or a declaration, given what follows
its exclamation mark. -/
def afterDeclaration? (cs : List Char) : Option (List Char) :=
  match cs with
  | '-' :: '-' :: rest => afterComment? rest
  | '[' :: 'C' :: 'D' :: 'A' :: 'T' :: 'A' :: '[' :: rest =>
    match rest.dropWhile (· != ']') with
    | [] => none
    | closing => after? '>' (closing.dropWhile (· == ']'))
  | c :: rest => if isLetter c then after? '>' (rest.dropWhile (· != '>')) else none
  | [] => none

def takeInlineHtml (newLine : List Char → List Char) (cs : List Char) : Option Taken :=
  let raw (rest : List Char) : Taken := (cs.take (cs.length - rest.length), rest)
  match cs with
  | '!' :: rest => (afterDeclaration? rest).map raw
  | '?' :: rest => (afterPair? '?' '>' rest).map raw
  | _ => takeTag (some newLine) cs

/-- Takes an address behind an angle bracket: a scheme of 2 to 32 characters, a colon, and anything
but blanks and angle brackets. -/
def takeUri (cs : List Char) : Option Taken :=
  match cs with
  | [] => none
  | c :: _ =>
    let (scheme, rest) := takeAll
      (fun d => isLetterOrDigit d || d == '.' || d == '-' || d == '+') cs
    if isLetter c && 2 ≤ scheme.length && scheme.length ≤ 32 then
      match rest with
      | ':' :: rest =>
        let (path, rest) := takeAll (fun d => d.toNat > 0x20 && d != '<' && d != '>') rest
        match rest with
        | '>' :: rest => some (scheme ++ ':' :: path, rest)
        | _ => none
      | _ => none
    else none

def isMailboxChar (c : Char) : Bool :=
  isLetterOrDigit c ||
    ".!#$%&*+/=?^_|~-".toList.contains c || c == '\x27' || c == '\x60' || c == '\x7b' || c == '\x7d'

/-- Takes the labels of a domain between dots, each of up to 63 letters, digits and inner hyphens. -/
def takeDomain : Nat → List Char → Option Taken
  | 0, _ => none
  | fuel + 1, cs =>
    let (name, rest) := takeAll (fun d => isLetterOrDigit d || d == '-') cs
    if name.isEmpty || 63 < name.length || name.head? == some '-' || name.getLast? == some '-' then
      none
    else
      match rest with
      | '.' :: rest => Taken.andThen (name ++ ['.'], rest) (takeDomain fuel)
      | _ => some (name, rest)

def takeMail (cs : List Char) : Option Taken :=
  let (mailbox, rest) := takeAll isMailboxChar cs
  match rest with
  | '@' :: rest =>
    if mailbox.isEmpty then none
    else
      match Taken.andThen (mailbox ++ ['@'], rest) (takeDomain (rest.length + 1)) with
      | some (mail, '>' :: rest) => some (mail, rest)
      | _ => none
  | _ => none

/-- Takes an address between angle brackets, behind the first; the second is passed over. -/
def takeAutolink (cs : List Char) : Option Taken :=
  (takeUri cs).or (takeMail cs)

end Folio.Markdown
