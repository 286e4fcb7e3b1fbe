import WindowPlacement.Unicode.Age
import WindowPlacement.Unicode.Segmentation

/-!
# Characters by the names of their properties

Properties, general categories and scripts are asked for by name.  In a name only ASCII
letters, digits and signs count: capital and small letters are the same, and spaces, low
lines, hyphens and the prefix `is` are left out.
-/

namespace WindowPlacement.Unicode

open GeneralCategory

/-- Whether a character is left out of names. -/
def isNameSeparator (c : Char) : Bool :=
  c == ' ' || c == '_' || c == '-'

/-- The part of a name that counts.  A `c` behind the prefix keeps it, since the whole is the
short name of a property. -/
def normalName (name : List Char) : String :=
  let plain (s : List Char) : List Char :=
    (s.filter fun c => c.toNat < 128 && !isNameSeparator c).map Char.toLower
  match name with
  | i :: s :: rest =>
    if i.toLower == 'i' && s.toLower == 's' then
      let behind := plain rest
      if behind == ['c'] then "isc" else String.ofList behind
    else
      String.ofList (plain name)
  | _ => String.ofList (plain name)

/-- The general categories and their unions, with their names. -/
def categories : NamedSets := [
  (["uppercaseletter", "lu"], uppercaseLetter),
  (["lowercaseletter", "ll"], lowercaseLetter),
  (["titlecaseletter", "lt"], titlecaseLetter),
  (["casedletter", "lc"], casedLetter),
  (["modifierletter", "lm"], modifierLetter),
  (["otherletter", "lo"], otherLetter),
  (["letter", "l"], letter),
  (["nonspacingmark", "mn"], nonspacingMark),
  (["spacingmark", "mc"], spacingMark),
  (["enclosingmark", "me"], enclosingMark),
  (["mark", "combiningmark", "m"], mark),
  (["decimalnumber", "nd", "digit"], decimalNumber),
  (["letternumber", "nl"], letterNumber),
  (["othernumber", "no"], otherNumber),
  (["number", "n"], number),
  (["connectorpunctuation", "pc"], connectorPunctuation),
  (["dashpunctuation", "pd"], dashPunctuation),
  (["openpunctuation", "ps"], openPunctuation),
  (["closepunctuation", "pe"], closePunctuation),
  (["initialpunctuation", "pi"], initialPunctuation),
  (["finalpunctuation", "pf"], finalPunctuation),
  (["otherpunctuation", "po"], otherPunctuation),
  (["punctuation", "punct", "p"], punctuation),
  (["mathsymbol", "sm"], mathSymbol),
  (["currencysymbol", "sc"], currencySymbol),
  (["modifiersymbol", "sk"], modifierSymbol),
  (["othersymbol", "so"], otherSymbol),
  (["symbol", "s"], symbol),
  (["spaceseparator", "zs"], spaceSeparator),
  (["lineseparator", "zl"], lineSeparator),
  (["paragraphseparator", "zp"], paragraphSeparator),
  (["separator", "z"], separator),
  (["control", "cc", "cntrl"], control),
  (["format", "cf"], format),
  (["privateuse", "co"], privateUse),
  (["unassigned", "cn"], unassigned),
  (["other", "c"], other),
  (["any"], .all),
  (["assigned"], assigned),
  (["ascii"], .ofRange 0 0x7F)]

def Script.find? (name : String) : Option Script :=
  scripts.find? fun script => script.names.contains name

/-- The characters with a property, in a general category or of a script, by its name. -/
def charactersOf? (name : List Char) : Option RangeSet :=
  let name := normalName name
  match properties.find? name with
  | some set => some set
  | none =>
    match categories.find? name with
    | some set => some set
    | none => (Script.find? name).map Script.members

/-- The characters for which a property has a value, by the names of both. -/
def charactersWith? (property value : List Char) : Option RangeSet :=
  let value := normalName value
  match normalName property with
  | "generalcategory" | "gc" => categories.find? value
  | "script" | "sc" => (Script.find? value).map Script.members
  | "scriptextensions" | "scx" => (Script.find? value).map Script.users
  | "age" => charactersOfAge? value
  | "graphemeclusterbreak" | "gcb" => graphemeClusterBreaks.find? value
  | "wordbreak" | "wb" => wordBreaks.find? value
  | "sentencebreak" | "sb" => sentenceBreaks.find? value
  | _ => none

end WindowPlacement.Unicode
