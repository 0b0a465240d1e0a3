/-!
# Faults of YAML texts

Why a text is no YAML document, or why a document holds no value, by cause: first what the characters
can do wrong, then the tokens, then the values.
-/
namespace FormatHost.Yaml

/-- The causes. -/
inductive Fault where
  /-- A character that a text may not hold. -/
  | unprintable (c : Char)
  /-- No token starts with this character. -/
  | noToken (c : Char)
  /-- A quote is not closed. -/
  | unclosed
  /-- A document mark stands inside a quote. -/
  | markInQuote
  /-- An escape that means nothing. -/
  | badEscape
  /-- An escape names a number outside the code space. -/
  | noCodePoint (n : Nat)
  /-- The first line of a block text is malformed. -/
  | badHeader
  /-- A directive is malformed. -/
  | badDirective
  /-- The name of an anchor is malformed. -/
  | badName
  /-- A tag is malformed. -/
  | badTag
  /-- A key of a block mapping lacks its colon. -/
  | lostKey
  /-- An entry starts where none may. -/
  | misplaced
  /-- A token stands where it does not belong. -/
  | unexpected
  /-- The version of the language is given twice. -/
  | repeatedVersion
  /-- Another version of the language. -/
  | foreignVersion
  /-- A tag handle is given twice. -/
  | repeatedHandle
  /-- A tag handle that is not given. -/
  | unknownHandle
  /-- Two nodes have one anchor. -/
  | repeatedAnchor
  /-- An alias without an anchor before it. -/
  | unknownAlias
  /-- More than one document. -/
  | severalDocuments
  /-- A tag that stands for no kind of value. -/
  | unknownTag
  /-- A node of the wrong shape for its tag. -/
  | wrongShape
  /-- A container is used as a key. -/
  | containerKey
  /-- Something other than mappings is merged. -/
  | badMerge
  /-- A text that spells no bytes. -/
  | badBytes
  /-- A number without digits. -/
  | emptyNumber
  /-- A text that is not the number that its tag promises. -/
  | badNumber
  /-- A number that is too large. -/
  | hugeNumber
  /-- A text that is neither true nor false. -/
  | badBool
  /-- A text that has not the form of a moment. -/
  | badMoment
  /-- A day or a time that does not exist. -/
  | noSuchMoment
  /-- A mapping that an entry stands in for, where a moment should be. -/
  | momentOfMapping
  deriving DecidableEq, Repr

/-- The fault in words. -/
def Fault.message : Fault → String
  | unprintable _ => "a character that a text may not hold"
  | noToken _ => "a character that starts no token"
  | unclosed => "a quote that is not closed"
  | markInQuote => "a document mark inside a quote"
  | badEscape => "an escape that means nothing"
  | noCodePoint n => "an escape for the number " ++ toString n ++ ", which is no character"
  | badHeader => "a malformed first line of a block text"
  | badDirective => "a malformed directive"
  | badName => "a malformed name of an anchor"
  | badTag => "a malformed tag"
  | lostKey => "a key without its colon"
  | misplaced => "an entry where none may start"
  | unexpected => "a token where it does not belong"
  | repeatedVersion => "two versions of the language"
  | foreignVersion => "another version of the language"
  | repeatedHandle => "a tag handle that is given twice"
  | unknownHandle => "a tag handle that is not given"
  | repeatedAnchor => "an anchor that is given twice"
  | unknownAlias => "an alias without an anchor before it"
  | severalDocuments => "more than one document"
  | unknownTag => "a tag that stands for no kind of value"
  | wrongShape => "a node of the wrong shape for its tag"
  | containerKey => "a container as a key"
  | badMerge => "a merge of something other than mappings"
  | badBytes => "a text that spells no bytes"
  | emptyNumber => "a number without digits"
  | badNumber => "a text that is not the number that its tag promises"
  | hugeNumber => "a number that is too large"
  | badBool => "a text that is neither true nor false"
  | badMoment => "a text that has not the form of a moment"
  | noSuchMoment => "a day or a time that does not exist"
  | momentOfMapping => "a mapping in place of a moment"

end FormatHost.Yaml
