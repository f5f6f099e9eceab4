/-!
# Bytes of punctuation

The bytes that paths, arguments and files of a repository give a meaning to, by name. They can stand in patterns.
-/

namespace MarkerAudit.Ascii

@[match_pattern] abbrev tab : UInt8 := 9
@[match_pattern] abbrev lineFeed : UInt8 := 10
@[match_pattern] abbrev carriageReturn : UInt8 := 13
@[match_pattern] abbrev blank : UInt8 := 32
@[match_pattern] abbrev exclamationMark : UInt8 := 33
@[match_pattern] abbrev quotationMark : UInt8 := 34
@[match_pattern] abbrev numberSign : UInt8 := 35
@[match_pattern] abbrev asterisk : UInt8 := 42
@[match_pattern] abbrev plusSign : UInt8 := 43
@[match_pattern] abbrev hyphen : UInt8 := 45
@[match_pattern] abbrev period : UInt8 := 46
@[match_pattern] abbrev slash : UInt8 := 47
@[match_pattern] abbrev colon : UInt8 := 58
@[match_pattern] abbrev semicolon : UInt8 := 59
@[match_pattern] abbrev equalsSign : UInt8 := 61
@[match_pattern] abbrev questionMark : UInt8 := 63
@[match_pattern] abbrev openBracket : UInt8 := 91
@[match_pattern] abbrev backslash : UInt8 := 92
@[match_pattern] abbrev closeBracket : UInt8 := 93
@[match_pattern] abbrev caret : UInt8 := 94

end MarkerAudit.Ascii
