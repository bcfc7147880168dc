import GivenNames.Delimited

/-!
Writing delimited tables. A field stands in quotes when it holds the separator, a quote or a line
end; every record ends with a line feed. A record of one empty field is written as two quotes, which
tell it from an empty line.
-/

namespace GivenNames.Delimited

/-- Whether a field can only be written in quotes. -/
def needsQuotes (separator : Separator) (field : Text.Bytes) : Bool :=
  field.any fun b => b == separator.byte || b == quote || isTerminator b

/-- The bytes of a field with every quote doubled. -/
def doubleQuotes (field : Text.Bytes) : Text.Bytes :=
  field.flatMap fun b => if b == quote then [quote, quote] else [b]

/-- The bytes of a field in quotes. -/
def quoteField (field : Text.Bytes) : Text.Bytes :=
  quote :: (doubleQuotes field ++ [quote])

/-- A field as it is written. -/
def writeField (separator : Separator) (field : Text.Bytes) : Text.Bytes :=
  if needsQuotes separator field then quoteField field else field

/-- Fields with separators between them. -/
def writeFields (separator : Separator) : List Text.Bytes → Text.Bytes
  | [] => []
  | [field] => writeField separator field
  | field :: fields =>
    writeField separator field ++ separator.byte :: writeFields separator fields

/-- A record as it is written. -/
def writeRecord (separator : Separator) (fields : List Text.Bytes) : Text.Bytes :=
  (if fields = [[]] then quoteField [] else writeFields separator fields) ++ [Text.lineFeed]

/-- A whole table as it is written. -/
def write (separator : Separator) (records : List (List String)) : Text.Bytes :=
  records.flatMap fun fields => writeRecord separator (fields.map Text.encode)

end GivenNames.Delimited
