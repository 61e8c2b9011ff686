import LanguageServer.Text.Measure

namespace LanguageServer

/-!
Document identities.  A document is named by a well-formed resource
identifier.  The text is kept as it was written: two identifiers name the same
document exactly when their texts are equal, whatever a scheme may say about
letter case or percent encodings.
-/

namespace Uri

/-! ## The generic syntax

An identifier is a scheme, an optional authority, a path, an optional query and an
optional fragment, written in a limited set of ASCII characters.  Every other
character is written as a percent sign and two hexadecimal digits.  The recogniser
only says whether a text has this form; it changes nothing in it. -/

/-- Letters, digits and the marks that need no encoding anywhere. -/
def isUnreserved (c : Char) : Bool :=
  c.isAlphanum || c == '-' || c == '.' || c == '_' || c == '~'

/-- Delimiters that a scheme may give a meaning of its own. -/
def isSubDelimiter (c : Char) : Bool :=
  c == '!' || c == '$' || c == '&' || c == '\'' || c == '(' || c == ')' ||
    c == '*' || c == '+' || c == ',' || c == ';' || c == '='

/-- A hexadecimal digit. -/
def isHexDigit (c : Char) : Bool :=
  c.isDigit || ('a' ≤ c && c ≤ 'f') || ('A' ≤ c && c ≤ 'F')

/-- Characters of a host name. -/
def isNameChar (c : Char) : Bool := isUnreserved c || isSubDelimiter c

/-- Characters of a user name and password. -/
def isUserChar (c : Char) : Bool := isNameChar c || c == ':'

/-- Characters of one path segment. -/
def isSegmentChar (c : Char) : Bool := isUserChar c || c == '@'

/-- Characters of a path. -/
def isPathChar (c : Char) : Bool := isSegmentChar c || c == '/'

/-- Characters of a query or a fragment. -/
def isQueryChar (c : Char) : Bool := isPathChar c || c == '?'

/-- Whether a text consists of allowed characters and percent encodings. -/
def isEncoded (allowed : Char → Bool) : List Char → Bool
  | '%' :: high :: low :: rest =>
      isHexDigit high && isHexDigit low && isEncoded allowed rest
  | c :: rest => allowed c && isEncoded allowed rest
  | [] => true

/-- The parts of a text before and behind the first `mark`; the second part is
missing when the mark does not occur. -/
def splitAtFirst (mark : Char) (text : List Char) : List Char × Option (List Char) :=
  match text.dropWhile (· != mark) with
  | [] => (text, none)
  | _ :: rest => (text.takeWhile (· != mark), some rest)

/-- A letter, then letters, digits, plus, minus and dot. -/
def isScheme : List Char → Bool
  | [] => false
  | first :: rest =>
      first.isAlpha &&
        rest.all fun c => c.isAlphanum || c == '+' || c == '-' || c == '.'

/-- A number from 0 to 255 without leading zeros. -/
def isOctet (digits : List Char) : Bool :=
  match digits with
  | [_] => digits.all Char.isDigit
  | [high, _] => digits.all Char.isDigit && high != '0'
  | ['1', _, _] => digits.all Char.isDigit
  | ['2', middle, low] =>
      digits.all Char.isDigit && (middle < '5' || (middle == '5' && low ≤ '5'))
  | _ => false

/-- Four octets between dots. -/
def isAddress4 (text : List Char) : Bool :=
  let octets := Text.pieces '.' text
  octets.length == 4 && octets.all isOctet

/-- One to four hexadecimal digits. -/
def isGroup (text : List Char) : Bool :=
  1 ≤ text.length && text.length ≤ 4 && text.all isHexDigit

/-- The number of 16-bit groups that a run of colon-separated pieces stands
for.  A trailing dotted address stands for two groups where it is allowed. -/
def groupCount? (dottedEnd : Bool) : List (List Char) → Option Nat
  | [] => some 0
  | [last] =>
      if isGroup last then some 1
      else if dottedEnd && isAddress4 last then some 2
      else none
  | piece :: rest =>
      if isGroup piece then (groupCount? dottedEnd rest).map (· + 1) else none

/-- The parts before and behind the first double colon. -/
def splitAtGap : List Char → Option (List Char × List Char)
  | ':' :: ':' :: rest => some ([], rest)
  | c :: rest => (splitAtGap rest).map fun parts => (c :: parts.1, parts.2)
  | [] => none

private def groupsOf (text : List Char) : List (List Char) :=
  if text.isEmpty then [] else Text.pieces ':' text

/-- Eight groups, or fewer around one double colon that stands for the
missing ones. -/
def isAddress6 (text : List Char) : Bool :=
  match splitAtGap text with
  | none => groupCount? true (groupsOf text) == some 8
  | some (before, behind) =>
      match groupCount? false (groupsOf before), groupCount? true (groupsOf behind) with
      | some left, some right => left + right ≤ 7
      | _, _ => false

/-- A versioned address form that later standards may define. -/
def isFutureAddress : List Char → Bool
  | mark :: rest =>
      (mark == 'v' || mark == 'V') &&
        match splitAtFirst '.' rest with
        | (version, some address) =>
            !version.isEmpty && version.all isHexDigit &&
              !address.isEmpty && address.all isUserChar
        | _ => false
  | [] => false

/-- A colon and a possibly empty number, or nothing. -/
def isNumberSuffix : List Char → Bool
  | [] => true
  | colon :: digits => colon == ':' && digits.all Char.isDigit

/-- A bracketed address or a name, then an optional number behind a colon. -/
def isHost (text : List Char) : Bool :=
  match text with
  | '[' :: rest =>
      match splitAtFirst ']' rest with
      | (address, some suffix) =>
          (isAddress6 address || isFutureAddress address) && isNumberSuffix suffix
      | _ => false
  | _ =>
      isEncoded isNameChar (text.takeWhile (· != ':')) &&
        isNumberSuffix (text.dropWhile (· != ':'))

/-- An optional user part, then a host with its optional number. -/
def isAuthority (text : List Char) : Bool :=
  match splitAtFirst '@' text with
  | (user, some host) => isEncoded isUserChar user && isHost host
  | (host, none) => isHost host

/-- What stands between the scheme and the query: an authority after two
slashes and then a path, or a path alone. -/
def isHierarchy : List Char → Bool
  | '/' :: '/' :: rest =>
      isAuthority (rest.takeWhile (· != '/')) &&
        isEncoded isPathChar (rest.dropWhile (· != '/'))
  | path => isEncoded isPathChar path

/-- Whether a text is a resource identifier. -/
def isWellFormed (text : List Char) : Bool :=
  match splitAtFirst ':' text with
  | (_, none) => false
  | (scheme, some rest) =>
      let (main, fragment) := splitAtFirst '#' rest
      let (hierarchy, query) := splitAtFirst '?' main
      isScheme scheme && isHierarchy hierarchy &&
        query.all (isEncoded isQueryChar) && fragment.all (isEncoded isQueryChar)

end Uri

/-! ## Identifiers -/

/-- A well-formed resource identifier, kept verbatim. -/
structure Uri where
  text : String
  wellFormed : Uri.isWellFormed text.toList = true
  deriving DecidableEq

namespace Uri

/-- Reads a text as an identifier. -/
def ofString? (text : String) : Option Uri :=
  if wellFormed : isWellFormed text.toList = true then some ⟨text, wellFormed⟩
  else none

theorem ofString?_eq_some_iff {text : String} {uri : Uri} :
    ofString? text = some uri ↔ uri.text = text := by
  unfold ofString?
  constructor
  · intro found
    split at found
    · cases found
      rfl
    · cases found
  · rintro rfl
    simp [uri.wellFormed]

@[ext] theorem ext {first second : Uri} (same : first.text = second.text) :
    first = second := by
  cases first
  cases second
  simp_all

end Uri

end LanguageServer
