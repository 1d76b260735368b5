import BasicComputer.Text.Bytes

/-!
Contract: the registered variants of language tags.

Owns the names and their order in a tag: general dialects and orthographies by
name, then the variants that refine one of them, then notations for any language.
-/

namespace BasicComputer

namespace Variant

/-- The dialects and orthographies. -/
def basic : List String :=
  ["1606nict", "1694acad", "1901", "1959acad", "1996", "abl1943", "akuapem", "aluku", "ao1990",
    "aranes", "arevela", "arevmda", "arkaika", "asante", "auvern", "baku1926", "balanka", "barla",
    "basiceng", "bauddha", "bciav", "bcizbl", "biscayan", "bohoric", "boont", "bornholm", "cisaup",
    "colb1945", "cornu", "creiss", "dajnko", "ekavsk", "emodeng", "gallo", "gascon", "grclass",
    "grital", "grmistr", "hepburn", "hognorsk", "hsistemo", "ijekavsk", "itihasa", "ivanchov",
    "jauer", "jyutping", "kkcor", "kociewie", "kscor", "laukika", "lemosin", "lengadoc", "ltg1929",
    "ltg2007", "luna1918", "metelko", "monoton", "ndyuka", "nedis", "newfound", "nicard", "nulik",
    "oxendict", "pahawh2", "pahawh3", "pahawh4", "pamaka", "peano", "petr1708", "pinyin", "polyton",
    "provenc", "puter", "rigik", "rozaj", "rumgr", "scotland", "scouse", "sotav", "spanglis",
    "surmiran", "sursilv", "sutsilv", "synnejyl", "tarask", "tongyong", "tunumiis", "uccor",
    "ucrcor", "ulster", "unifon", "vaidika", "valencia", "vallader", "vecdruka", "vivaraup",
    "wadegile", "xsistemo"]

/-- The variants that refine another one. -/
def refining : List String :=
  ["biske", "lipaw", "njiva", "osojs", "solba", "1994", "heploc"]

/-- The notations for any language. -/
def notational : List String :=
  ["alalc97", "fonipa", "fonkirsh", "fonnapa", "fonupa", "fonxsamp", "simple"]

def all : List Bytes :=
  (basic ++ refining ++ notational).map Bytes.ofString

def rank? (name : Bytes) : Option Nat :=
  all.findIdx? (· == name)

end Variant

end BasicComputer
