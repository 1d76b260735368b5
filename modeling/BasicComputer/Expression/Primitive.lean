import BasicComputer.Text.Bytes

/-!
Contract: the names that every program knows, and the methods of values.

Owns the enumerations and their spelling. What the functions do is in
`Expression.Builtins` and `Expression.Methods`.
-/

namespace BasicComputer.Expression

inductive Builtin where
  | abs | all | any | bool | bytes | chr | dict | dir | enumerate | fail | float | getattr
  | hasattr | hash | int | len | list | max | min | ord | print | range | repr | reversed
  | sorted | str | tuple | type | zip
deriving DecidableEq, Repr

def builtinTable : List (String × Builtin) :=
  [("abs", .abs), ("all", .all), ("any", .any), ("bool", .bool), ("bytes", .bytes),
    ("chr", .chr), ("dict", .dict), ("dir", .dir), ("enumerate", .enumerate), ("fail", .fail),
    ("float", .float), ("getattr", .getattr), ("hasattr", .hasattr), ("hash", .hash),
    ("int", .int), ("len", .len), ("list", .list), ("max", .max), ("min", .min), ("ord", .ord),
    ("print", .print), ("range", .range), ("repr", .repr), ("reversed", .reversed),
    ("sorted", .sorted), ("str", .str), ("tuple", .tuple), ("type", .type), ("zip", .zip)]

def builtin? (name : Bytes) : Option Builtin :=
  (builtinTable.find? fun entry => Bytes.ofString entry.1 == name).map Prod.snd

def Builtin.name (builtin : Builtin) : String :=
  match builtinTable.find? fun entry => entry.2 == builtin with
  | some entry => entry.1
  | none => ""

inductive TextMethod where
  | capitalize | codepointOrds | codepoints | count | elemOrds | elems | endswith | find | format
  | index | isalnum | isalpha | isdigit | islower | isspace | istitle | isupper | join | lower
  | lstrip | partition | removeLeading | removeTrailing | replace | rfind | rindex | rpartition
  | rsplit | rstrip | split | splitlines | startswith | strip | title | upper
deriving DecidableEq, Repr

inductive ListMethod where
  | append | clear | extend | index | insert | pop | remove
deriving DecidableEq, Repr

inductive DictMethod where
  | clear | get | items | keys | pop | popitem | setdefault | update | values
deriving DecidableEq, Repr

inductive Method where
  | text (method : TextMethod)
  | bytesElems
  | list (method : ListMethod)
  | dict (method : DictMethod)
deriving DecidableEq, Repr

/-- Methods of texts, in the order of their names. -/
def textMethodTable : List (String × Method) :=
  [("capitalize", .text .capitalize), ("codepoint_ords", .text .codepointOrds),
    ("codepoints", .text .codepoints), ("count", .text .count), ("elem_ords", .text .elemOrds),
    ("elems", .text .elems), ("endswith", .text .endswith), ("find", .text .find),
    ("format", .text .format), ("index", .text .index), ("isalnum", .text .isalnum),
    ("isalpha", .text .isalpha), ("isdigit", .text .isdigit), ("islower", .text .islower),
    ("isspace", .text .isspace), ("istitle", .text .istitle), ("isupper", .text .isupper),
    ("join", .text .join), ("lower", .text .lower), ("lstrip", .text .lstrip),
    ("partition", .text .partition), ("removeprefix", .text .removeLeading),
    ("removesuffix", .text .removeTrailing), ("replace", .text .replace),
    ("rfind", .text .rfind), ("rindex", .text .rindex), ("rpartition", .text .rpartition),
    ("rsplit", .text .rsplit), ("rstrip", .text .rstrip), ("split", .text .split),
    ("splitlines", .text .splitlines), ("startswith", .text .startswith),
    ("strip", .text .strip), ("title", .text .title), ("upper", .text .upper)]

def bytesMethodTable : List (String × Method) :=
  [("elems", .bytesElems)]

/-- Methods of lists, in the order of their names. -/
def listMethodTable : List (String × Method) :=
  [("append", .list .append), ("clear", .list .clear), ("extend", .list .extend),
    ("index", .list .index), ("insert", .list .insert), ("pop", .list .pop),
    ("remove", .list .remove)]

/-- Methods of dictionaries, in the order of their names. -/
def dictMethodTable : List (String × Method) :=
  [("clear", .dict .clear), ("get", .dict .get), ("items", .dict .items), ("keys", .dict .keys),
    ("pop", .dict .pop), ("popitem", .dict .popitem), ("setdefault", .dict .setdefault),
    ("update", .dict .update), ("values", .dict .values)]

def Method.name (method : Method) : String :=
  match (textMethodTable ++ bytesMethodTable ++ listMethodTable ++ dictMethodTable).find?
      fun entry => entry.2 == method with
  | some entry => entry.1
  | none => ""

end BasicComputer.Expression
