import MarkerAudit.Unicode.Derived
import MarkerAudit.Unicode.ScriptExtension
import MarkerAudit.Unicode.Age
import MarkerAudit.Unicode.Segmentation

/-!
# Properties by name

A class of characters is asked for by one name (a binary property, a general category or a script) or by
a property and a value. Names are compared loosely: case, blanks, `_`, `-` and a leading `is` do not count.
-/

namespace MarkerAudit.Unicode

/-- Why a name stands for no set of characters. -/
inductive LookupError
  | unknownProperty
  | unknownValue
deriving DecidableEq, Repr

/-- The part of a name that counts. Under the name `isc` the prefix counts, since it is no prefix there. -/
def looseName (name : Text) : Text :=
  let prefixed := match name with
    | i :: s :: _ => i.toLower == 'i' && s.toLower == 's'
    | _ => false
  let body := if prefixed then name.drop 2 else name
  let kept := (body.filter fun c => c.toNat < 128 && c ≠ ' ' && c ≠ '_' && c ≠ '-').map Char.toLower
  if prefixed && kept == ['c'] then ['i', 's', 'c'] else kept

/-- Whether `loose` is one of the given names. -/
def isNamed (names : List String) (loose : Text) : Bool :=
  names.any fun n => looseName n.toList = loose

/-- The first set that goes by the name. -/
def NamedSet.find? (sets : List NamedSet) (loose : Text) : Option CharSet :=
  (sets.find? fun s => isNamed s.names loose).map NamedSet.members

/-- The set with the given name as a general category. -/
def findCategory? (loose : Text) : Option CharSet :=
  NamedSet.find? (Category.groups ++ Category.tables) loose

/-- The set with the given name as a script. -/
def findScript? (loose : Text) : Option CharSet :=
  NamedSet.find? scripts loose

/-- Names of categories and scripts that hold no characters. -/
def namesNothing (loose : Text) : Bool :=
  isNamed (["Cs", "Surrogate"] ++ emptyScripts) loose

/-- The characters that a single name stands for. -/
def ofName (name : Text) : Except LookupError CharSet :=
  let loose := looseName name
  match NamedSet.find? (Property.derived ++ Property.tables) loose with
  | some s => .ok s
  | none =>
    match findCategory? loose with
    | some s => .ok s
    | none =>
      match findScript? loose with
      | some s => .ok s
      | none => .error (if namesNothing loose then .unknownValue else .unknownProperty)

/-! ## Properties with values -/

/-- Properties whose values select characters. -/
inductive ValuedProperty
  | generalCategory
  | script
  | scriptExtensions
  | age
  | graphemeClusterBreak
  | wordBreak
  | sentenceBreak
deriving DecidableEq, Repr

/-- The valued properties with their names. -/
def valuedProperties : List (ValuedProperty × List String) := [
  (.generalCategory, ["gc", "General_Category"]),
  (.script, ["sc", "Script"]),
  (.scriptExtensions, ["scx", "Script_Extensions"]),
  (.age, ["age"]),
  (.graphemeClusterBreak, ["GCB", "Grapheme_Cluster_Break"]),
  (.wordBreak, ["WB", "Word_Break"]),
  (.sentenceBreak, ["SB", "Sentence_Break"])]

/-- Names of properties none of whose values can be asked for, those of the tables left out. -/
def unvaluedNames : List String := [
  "cjkAccountingNumeric", "kAccountingNumeric", "cjkOtherNumeric", "kOtherNumeric",
  "cjkPrimaryNumeric", "kPrimaryNumeric", "nv", "Numeric_Value", "bmg", "Bidi_Mirroring_Glyph",
  "bpb", "Bidi_Paired_Bracket", "cf", "Case_Folding", "cjkCompatibilityVariant",
  "kCompatibilityVariant", "dm", "Decomposition_Mapping", "EqUIdeo", "Equivalent_Unified_Ideograph",
  "FC_NFKC", "FC_NFKC_Closure", "lc", "Lowercase_Mapping", "NFKC_CF", "NFKC_Casefold", "NFKC_SCF",
  "NFKC_Simple_Casefold", "scf", "Simple_Case_Folding", "sfc", "slc", "Simple_Lowercase_Mapping",
  "stc", "Simple_Titlecase_Mapping", "suc", "Simple_Uppercase_Mapping", "tc", "Titlecase_Mapping",
  "uc", "Uppercase_Mapping", "cjkIICore", "kIICore", "cjkIRG_GSource", "kIRG_GSource",
  "cjkIRG_HSource", "kIRG_HSource", "cjkIRG_JSource", "kIRG_JSource", "cjkIRG_KPSource",
  "kIRG_KPSource", "cjkIRG_KSource", "kIRG_KSource", "cjkIRG_MSource", "kIRG_MSource",
  "cjkIRG_SSource", "kIRG_SSource", "cjkIRG_TSource", "kIRG_TSource", "cjkIRG_UKSource",
  "kIRG_UKSource", "cjkIRG_USource", "kIRG_USource", "cjkIRG_VSource", "kIRG_VSource",
  "cjkRSUnicode", "kRSUnicode", "Unicode_Radical_Stroke", "URS", "isc", "ISO_Comment", "JSN",
  "Jamo_Short_Name", "kEH_Cat", "kEH_Desc", "kEH_HG", "kEH_IFAO", "kEH_JSesh", "kEH_Core",
  "kEH_NoMirror", "kEH_NoRotate", "na", "Name", "na1", "Unicode_1_Name", "Name_Alias", "blk",
  "Block", "bc", "Bidi_Class", "bpt", "Bidi_Paired_Bracket_Type", "ccc",
  "Canonical_Combining_Class", "dt", "Decomposition_Type", "ea", "East_Asian_Width", "hst",
  "Hangul_Syllable_Type", "InCB", "Indic_Conjunct_Break", "InPC", "Indic_Positional_Category",
  "InSC", "Indic_Syllabic_Category", "jg", "Joining_Group", "jt", "Joining_Type", "lb",
  "Line_Break", "NFC_QC", "NFC_Quick_Check", "NFD_QC", "NFD_Quick_Check", "NFKC_QC",
  "NFKC_Quick_Check", "NFKD_QC", "NFKD_Quick_Check", "nt", "Numeric_Type", "vo",
  "Vertical_Orientation", "Bidi_M", "Bidi_Mirrored", "CE", "Composition_Exclusion", "Comp_Ex",
  "Full_Composition_Exclusion", "CWKCF", "Changes_When_NFKC_Casefolded", "XO_NFC",
  "Expands_On_NFC", "XO_NFD", "Expands_On_NFD", "XO_NFKC", "Expands_On_NFKC", "XO_NFKD",
  "Expands_On_NFKD"]

/-- Whether a property goes by the name, with or without values that can be asked for. -/
def isPropertyName (loose : Text) : Bool :=
  isNamed unvaluedNames loose || (NamedSet.find? (Property.derived ++ Property.tables) loose).isSome

/-- The characters for which the property has the value. -/
def ValuedProperty.find? (p : ValuedProperty) (loose : Text) : Option CharSet :=
  match p with
  | .generalCategory => findCategory? loose
  | .script => findScript? loose
  | .scriptExtensions =>
    (scripts.find? fun s => isNamed s.names loose).bind fun s => s.names.head?.map Unicode.scriptExtensions
  | .age => (additions.findIdx? fun s => isNamed s.names loose).map presentIn
  | .graphemeClusterBreak => NamedSet.find? graphemeBreaks loose
  | .wordBreak => NamedSet.find? wordBreaks loose
  | .sentenceBreak => NamedSet.find? sentenceBreaks loose

/-- The characters for which the named property has the named value. -/
def ofValue (property value : Text) : Except LookupError CharSet :=
  let loose := looseName property
  match valuedProperties.find? fun (_, names) => isNamed names loose with
  | some (p, _) =>
    match p.find? (looseName value) with
    | some s => .ok s
    | none => .error .unknownValue
  | none => .error (if isPropertyName loose then .unknownValue else .unknownProperty)

end MarkerAudit.Unicode
