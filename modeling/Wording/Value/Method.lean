/-!
# Methods

The methods that values have, with their names. Texts and bytes share most of theirs. Each kind of
value lists the methods it has and the attributes that are data.
-/

namespace Wording

/-- The kinds of values that have methods. -/
inductive Receiver where
  | str
  | bytes
  | list
  | tuple
  | int
  | float
  | complex
  deriving DecidableEq, Repr

inductive Method where
  | append | asIntegerRatio | bitCount | bitLength | capitalize | casefold | center | clear
  | conjugate | copy | count | cutEnd | cutStart | decode | encode | endsWith | expandTabs
  | extend | find | fromBytes | fromHex | hex | index | insert | isAlnum | isAlpha | isAscii
  | isDecimal | isDigit | isIdentifier | isInteger | isLower | isNumeric | isPrintable | isSpace
  | isTitle | isUpper | join | ljust | lower | lstrip | maketrans | partition | pop | remove
  | replace | reverse | rfind | rindex | rjust | rpartition | rsplit | rstrip | sort | split
  | splitLines | startsWith | strip | swapCase | title | toBytes | replaceChars | upper | zfill
  deriving DecidableEq, Repr

namespace Method

/-- The methods of texts and bytes alike. -/
def shared : List (String × Method) :=
  [("capitalize", capitalize), ("center", center), ("count", count), ("endswith", endsWith),
   ("expandtabs", expandTabs), ("find", find), ("index", index), ("isalnum", isAlnum),
   ("isalpha", isAlpha), ("isascii", isAscii), ("isdigit", isDigit), ("islower", isLower),
   ("isspace", isSpace), ("istitle", isTitle), ("isupper", isUpper), ("join", join),
   ("ljust", ljust), ("lower", lower), ("lstrip", lstrip), ("maketrans", maketrans),
   ("partition", partition), ("removeprefix", cutStart), ("removesuffix", cutEnd),
   ("replace", replace), ("rfind", rfind), ("rindex", rindex), ("rjust", rjust),
   ("rpartition", rpartition), ("rsplit", rsplit), ("rstrip", rstrip), ("split", split),
   ("splitlines", splitLines), ("startswith", startsWith), ("strip", strip),
   ("swapcase", swapCase), ("title", title), ("translate", replaceChars), ("upper", upper),
   ("zfill", zfill)]

end Method

namespace Receiver

/-- The name of a kind. -/
def name : Receiver → String
  | str => "str"
  | bytes => "bytes"
  | list => "list"
  | tuple => "tuple"
  | int => "int"
  | float => "float"
  | complex => "complex"

/-- The methods of a kind by name. -/
def methods : Receiver → List (String × Method)
  | str => Method.shared ++
      [("casefold", .casefold), ("encode", .encode), ("isdecimal", .isDecimal),
       ("isidentifier", .isIdentifier), ("isnumeric", .isNumeric), ("isprintable", .isPrintable)]
  | bytes => Method.shared ++ [("decode", .decode), ("fromhex", .fromHex), ("hex", .hex)]
  | list =>
      [("append", .append), ("clear", .clear), ("copy", .copy), ("count", .count),
       ("extend", .extend), ("index", .index), ("insert", .insert), ("pop", .pop),
       ("remove", .remove), ("reverse", .reverse), ("sort", .sort)]
  | tuple => [("count", .count), ("index", .index)]
  | int =>
      [("as_integer_ratio", .asIntegerRatio), ("bit_count", .bitCount),
       ("bit_length", .bitLength), ("conjugate", .conjugate), ("from_bytes", .fromBytes),
       ("to_bytes", .toBytes)]
  | float =>
      [("as_integer_ratio", .asIntegerRatio), ("conjugate", .conjugate), ("fromhex", .fromHex),
       ("hex", .hex), ("is_integer", .isInteger)]
  | complex => [("conjugate", .conjugate)]

def method? (k : Receiver) (name : String) : Option Method :=
  (k.methods.find? fun m => m.1 == name).map (·.2)

/-- The attributes of a kind that are data. -/
def data : Receiver → List String
  | int => ["denominator", "imag", "numerator", "real"]
  | float | complex => ["imag", "real"]
  | str | bytes | list | tuple => []

end Receiver

/-- Methods that belong to a kind and take no value of it. -/
def Method.isStatic (m : Method) (k : Receiver) : Bool :=
  match k, m with
  | .str, .maketrans | .bytes, .maketrans | .bytes, .fromHex | .int, .fromBytes
  | .float, .fromHex => true
  | _, _ => false

end Wording
