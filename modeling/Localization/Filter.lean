import Localization.Regex.Matcher

/-!
# Which texts are for people to read

A literal is left alone when it is blank, too short, or looks like something for machines: a name in
code, an address, a path, a class of a style sheet, or the start of code. A project may add regular
expressions of its own. Attributes have names that never hold readable text, and values that are
boilerplate whatever the name.
-/

namespace Localization

/-- What a project may set: the least length of a text, and expressions that exclude texts. -/
structure Filter where
  minLength : Int
  patterns : List Regex

namespace Filter

/-- The filter of a project that sets nothing. -/
def standard : Filter := ⟨2, []⟩

/-! ## Rules -/

/-- Characters of names in code. -/
def isCodePoint (c : CodePoint) : Bool := c.isWord || c = .scalar '$'

/-- Names in lower case: a lower-case letter, an underscore or a dollar sign comes first. -/
def isLowerName : Text → Bool
  | c :: t => (c.isAsciiLower || c = .scalar '_' || c = .scalar '$') && t.all isCodePoint
  | [] => false

/-- Names with a digit, an underscore or a dollar sign after the first character. -/
def isMarkedName : Text → Bool
  | c :: t =>
    (c.isAsciiLetter || c = .scalar '_' || c = .scalar '$') && t.all isCodePoint &&
      t.any fun d => d.isDigit || d = .scalar '_' || d = .scalar '$'
  | [] => false

/-- Names in capitals and lower case with a second capital right after the lower-case part. -/
def isCamelName : Text → Bool
  | c :: t =>
    let lower := t.takeWhile fun d => d.isAsciiLower || d.isAsciiDigit
    c.isAsciiUpper && !lower.isEmpty &&
      match t.drop lower.length with
      | d :: rest => d.isAsciiUpper && rest.all isCodePoint
      | [] => false
  | [] => false

/-- Names in code. -/
def isName (t : Text) : Bool := isLowerName t || isMarkedName t || isCamelName t

/-- Whether a text starts with a scheme and `://`. -/
def hasScheme : Text → Bool
  | c :: t =>
    c.isAsciiLetter &&
      Text.startsWith (t.dropWhile fun d =>
        d.isAsciiLetter || d.isAsciiDigit || d = .scalar '+' || d = .scalar '.' ||
          d = .scalar '-') "://"
  | [] => false

/-- Addresses. -/
def isAddress (t : Text) : Bool :=
  hasScheme t || t.startsWith "mailto:" || t.startsWith "tel:" || t.startsWith "www."

/-- Paths of files. -/
def isPath (t : Text) : Bool :=
  let slash (c : CodePoint) : Bool := c = .scalar '/' || c = .scalar '\\'
  match t with
  | a :: rest =>
    slash a ||
      (a = .scalar '.' && (rest.head?.any slash ||
        (rest.head? == some (.scalar '.') && rest.tail.head?.any slash))) ||
      (a = .scalar '~' && rest.head?.any slash) ||
      (a.isAsciiLetter && Text.startsWith rest ":\\")
  | [] => false

/-- Classes of style sheets. -/
def isStyleClass : Text → Bool
  | .scalar '.' :: c :: t => c.isAsciiLetter && t.all fun d => d.isWord || d = .scalar '-'
  | _ => false

/-- Texts that start like code. -/
def startsLikeCode : Text → Bool
  | c :: _ => ("\x7b\x7d[]();" : Text).contains c
  | [] => false

/-- Whether a text that is not blank at its ends is for machines. -/
def isTechnical (t : Text) : Bool :=
  isName t || isAddress t || isPath t || isStyleClass t || startsLikeCode t

/-! ## Texts -/

/-- Whether a text is left alone. -/
def excludes (f : Filter) (t : Text) : Bool :=
  let stripped := t.strip
  stripped.isEmpty || decide ((stripped.length : Int) < f.minLength) || isTechnical stripped ||
    f.patterns.any (·.search t)

/-! ## Attributes -/

/-- Attributes that never hold readable text. -/
def technicalAttributes : List Text :=
  (["id", "class", "className", "src", "srcSet", "href", "target", "rel", "role", "key", "ref",
    "style", "type", "name", "htmlFor", "for", "xmlns", "lang", "method", "action", "encType",
    "autoComplete", "inputMode", "testID", "d", "viewBox", "x", "y", "cx", "cy", "r", "rx", "ry",
    "x1", "y1", "x2", "y2", "dx", "dy", "width", "height", "points", "transform", "fill", "stroke",
    "strokeWidth", "strokeLinecap", "strokeLinejoin", "fillRule", "clipRule", "clipPath",
    "preserveAspectRatio", "offset", "gradientTransform"] : List String).map Text.ofString

/-- Beginnings of attributes that never hold readable text. -/
def technicalLeads : List Text :=
  (["aria-", "data-", "xlink:", "xml:"] : List String).map Text.ofString

/-- Values that are boilerplate in any attribute. -/
def boilerplate : List Text :=
  (["_blank", "_self", "_parent", "_top", "noopener", "noreferrer", "noopener noreferrer",
    "noreferrer noopener", "nofollow", "nofollow noopener", "external"] : List String).map
    Text.ofString

/-- Whether an attribute never holds readable text. -/
def isTechnicalAttribute (name : Text) : Bool :=
  technicalAttributes.contains name || technicalLeads.any name.startsWith

/-- Whether an attribute's value is left alone. -/
def excludesAttribute (f : Filter) (name value : Text) : Bool :=
  isTechnicalAttribute name || boilerplate.contains value.strip || f.excludes value

end Filter

end Localization
