import GivenNames.Columnar.Compact
import GivenNames.Integer

/-!
The end of a stored columnar file.

A file ends with a description of its table, the length of the description, and four bytes that tell
the format. The description is a compact record; its shape is given here, with the schema of the
table as its second field. Bytes without a table fail on the first of these that is not right.
-/

namespace GivenNames.Columnar

/-! ### The shape of a description -/

namespace Description

open GivenNames.Columnar.Compact (Shape)

/-- A field that has to be there. -/
def needed (number : Nat) (shape : Shape) : Nat × Bool × Shape :=
  (number, true, shape)

/-- A field that may be missing. -/
def free (number : Nat) (shape : Shape) : Nat × Bool × Shape :=
  (number, false, shape)

def keyValue : Shape :=
  .record [needed 1 .text, free 2 .text]

/-- A record without fields of its own. -/
def mark : Shape :=
  .record []

def timeShape : Shape :=
  .record [needed 1 .truth, needed 2 (.choice [(1, mark), (2, mark), (3, mark)])]

def logicalType : Shape :=
  .choice [(1, mark), (2, mark), (3, mark), (4, mark),
    (5, .record [needed 1 .integer, needed 2 .integer]), (6, mark), (7, timeShape), (8, timeShape),
    (10, .record [needed 1 .byte, needed 2 .truth]), (11, mark), (12, mark), (13, mark), (14, mark),
    (15, mark)]

def schemaElement : Shape :=
  .record [free 1 .integer, free 2 .integer, free 3 .integer, needed 4 .text, free 5 .integer,
    free 6 .integer, free 7 .integer, free 8 .integer, free 9 .integer, free 10 logicalType]

def statistics : Shape :=
  .record [free 1 .bytes, free 2 .bytes, free 3 .integer, free 4 .integer, free 5 .bytes,
    free 6 .bytes, free 7 .truth, free 8 .truth]

def columnDescription : Shape :=
  .record [needed 1 .integer, needed 2 (.list .integer), needed 3 (.list .text), needed 4 .integer,
    needed 5 .integer, needed 6 .integer, needed 7 .integer, free 8 (.list keyValue),
    needed 9 .integer, free 10 .integer, free 11 .integer, free 12 statistics,
    free 13 (.list (.record [needed 1 .integer, needed 2 .integer, needed 3 .integer])),
    free 14 .integer, free 15 .integer,
    free 16 (.record [free 1 .integer, free 2 (.list .integer), free 3 (.list .integer)])]

def columnCipher : Shape :=
  .choice [(1, mark), (2, .record [needed 1 (.list .text), free 2 .bytes])]

def columnChunk : Shape :=
  .record [free 1 .text, needed 2 .integer, free 3 columnDescription, free 4 .integer,
    free 5 .integer, free 6 .integer, free 7 .integer, free 8 columnCipher, free 9 .bytes]

def rowGroup : Shape :=
  .record [needed 1 (.list columnChunk), needed 2 .integer, needed 3 .integer,
    free 4 (.list (.record [needed 1 .integer, needed 2 .truth, needed 3 .truth])), free 5 .integer,
    free 6 .integer, free 7 .integer]

def cipher : Shape :=
  let parts := .record [free 1 .bytes, free 2 .bytes, free 3 .truth]
  .choice [(1, parts), (2, parts)]

/-- The shape of the description of a table. -/
def shape : Shape :=
  .record [needed 1 .integer, needed 2 (.list schemaElement), needed 3 .integer,
    needed 4 (.list rowGroup), free 5 (.list keyValue), free 6 .text,
    free 7 (.list (.choice [(1, mark)])), free 8 cipher, free 9 .bytes]

/-- The number of a description's field that holds the schema. -/
def schemaField : Nat := 2

end Description

/-! ### Faults -/

/-- Why a stored file has no table that could be read. -/
inductive FooterFault where
  | tooSmall (size needed : Nat)
  | noMagic
  | encrypted
  | description (fault : Compact.Fault)
  | noSchema
  | noColumns
  deriving DecidableEq, Repr

namespace FooterFault

/-- The size of a footer: the length of the description, and the magic bytes. -/
def footerSize : Nat := 8

/-- The bytes that a stored file ends with. -/
def magic : Text.Bytes := [80, 65, 82, 49]

/-- The bytes that a stored file with an encrypted description ends with. -/
def encryptedMagic : Text.Bytes := [80, 65, 82, 69]

/-- The number whose bytes are these, the lowest first. -/
def littleEndian : Text.Bytes → Nat
  | [] => 0
  | b :: rest => b.toNat + 256 * littleEndian rest

/-- The fault of a description that has no columns. -/
def ofDescription (bytes : Text.Bytes) : FooterFault :=
  match Compact.read Description.shape bytes with
  | .error fault => .description fault
  | .ok v =>
    match v.field? Description.schemaField with
    | some (.list (_ :: _)) => .noColumns
    | _ => .noSchema

/-- The fault of bytes that are no stored table. -/
def ofBytes (bytes : Text.Bytes) : FooterFault :=
  if bytes.length < footerSize then .tooSmall bytes.length footerSize
  else
    let footer := bytes.drop (bytes.length - footerSize)
    let ending := footer.drop 4
    if ending ≠ magic ∧ ending ≠ encryptedMagic then .noMagic
    else
      let size := littleEndian (footer.take 4)
      let start := bytes.length - (size + footerSize)
      if bytes.length < size + footerSize then .tooSmall bytes.length (size + footerSize)
      else if ending = encryptedMagic then .encrypted
      else ofDescription ((bytes.drop start).take size)

def message : FooterFault → String
  | .tooSmall size needed =>
    "EOF: Parquet file too small. Size is " ++ Integer.natText size ++ " but need "
      ++ Integer.natText needed
  | .noMagic => "Parquet error: Invalid Parquet file. Corrupt footer"
  | .encrypted =>
    "Parquet error: Parquet file has an encrypted footer but the encryption feature is disabled"
  | .description fault => "Parquet error: Could not parse metadata: " ++ fault.message
  | .noSchema => "Parquet error: Expected exactly one root node, but found 0"
  | .noColumns => "Parquet error: Repetition level must be defined for a primitive type"

end FooterFault

end GivenNames.Columnar
