import MarkerAudit.Unicode.Property
import MarkerAudit.Unicode.CaseFolding

/-!
# Derived properties

Binary properties that Unicode defines from general categories and from listed properties.
-/

namespace MarkerAudit.Unicode.Property

open Category

/-- Blank characters, line ends included. -/
def whiteSpace : CharSet :=
  ⟨[⟨0x9, 0xD⟩, ⟨0x20, 0x20⟩, ⟨0x85, 0x85⟩, ⟨0xA0, 0xA0⟩, ⟨0x1680, 0x1680⟩, ⟨0x2000, 0x200A⟩,
    ⟨0x2028, 0x2029⟩, ⟨0x202F, 0x202F⟩, ⟨0x205F, 0x205F⟩, ⟨0x3000, 0x3000⟩]⟩

def lowercase : CharSet := lowercaseLetter.union otherLowercase

def uppercase : CharSet := uppercaseLetter.union otherUppercase

def cased : CharSet := .unions [lowercase, uppercase, titlecaseLetter]

/-- Characters that case mapping looks past to find the end of a word. -/
def caseIgnorable : CharSet :=
  .unions [nonspacingMark, enclosingMark, format, modifierLetter, modifierSymbol, midWord]

def alphabetic : CharSet :=
  .unions [lowercase, uppercase, titlecaseLetter, modifierLetter, otherLetter, letterNumber, otherAlphabetic]

def mathematical : CharSet := mathSymbol.union otherMath

/-- Characters that patterns of identifiers reserve. -/
def patternReserved : CharSet := patternSyntax.union patternWhiteSpace

def idStart : CharSet :=
  (CharSet.unions [letter, letterNumber, otherIdStart]).diff patternReserved

def idContinue : CharSet :=
  (CharSet.unions [idStart, nonspacingMark, spacingMark, decimalNumber, connectorPunctuation,
    otherIdContinue]).diff patternReserved

/-- Characters whose compatibility forms begin or go on with something that no identifier may hold. -/
def unstableInIdentifiers : CharSet :=
  .ofText ["37A 309B-309C FC5E-FC63 FDFA-FDFB FE70-FE7E/2"]

def xidStart : CharSet :=
  (idStart.diff unstableInIdentifiers).diff (.ofText ["E33 EB3 FF9E-FF9F"])

def xidContinue : CharSet := idContinue.diff unstableInIdentifiers

def defaultIgnorable : CharSet :=
  (CharSet.unions [otherDefaultIgnorable, format, variationSelector]).diff
    (.unions [whiteSpace, prependedMark, .ofText ["FFF9-FFFB 13430-13440"]])

def graphemeExtend : CharSet := .unions [enclosingMark, nonspacingMark, otherGraphemeExtend]

def graphemeBase : CharSet :=
  CharSet.diff assigned
    (.unions [control, format, privateUse, lineSeparator, paragraphSeparator, graphemeExtend])

def changesWhenCasemapped : CharSet :=
  .unions [changesWhenLowercased, changesWhenUppercased, changesWhenTitlecased]

/-- The derived properties with their names. -/
def derived : List NamedSet := [
  ⟨["WSpace", "White_Space", "space"], whiteSpace⟩,
  ⟨["Lower", "Lowercase"], lowercase⟩,
  ⟨["Upper", "Uppercase"], uppercase⟩,
  ⟨["Cased"], cased⟩,
  ⟨["CI", "Case_Ignorable"], caseIgnorable⟩,
  ⟨["Alpha", "Alphabetic"], alphabetic⟩,
  ⟨["Math"], mathematical⟩,
  ⟨["IDS", "ID_Start"], idStart⟩,
  ⟨["IDC", "ID_Continue"], idContinue⟩,
  ⟨["XIDS", "XID_Start"], xidStart⟩,
  ⟨["XIDC", "XID_Continue"], xidContinue⟩,
  ⟨["DI", "Default_Ignorable_Code_Point"], defaultIgnorable⟩,
  ⟨["Gr_Ext", "Grapheme_Extend"], graphemeExtend⟩,
  ⟨["Gr_Base", "Grapheme_Base"], graphemeBase⟩,
  ⟨["CWCM", "Changes_When_Casemapped"], changesWhenCasemapped⟩]

/-- Characters of words: letters, marks, digits, connectors and joiners. -/
def word : CharSet :=
  .unions [alphabetic, mark, decimalNumber, connectorPunctuation, joinControl]

end MarkerAudit.Unicode.Property
