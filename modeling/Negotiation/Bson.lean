/-
# Negotiation.Bson -- the values of commands and replies

Commands and replies are documents of typed values. A server may send a value of any
type, but only few types matter: integers, doubles, texts, truth values and arrays are
read, and all others are passed on. Nested documents keep their fields in order.
-/

import Negotiation.Bson.Double

namespace Negotiation

/-- A value of a document. -/
inductive Bson where
  /-- A missing value that is written down. -/
  | null
  /-- A truth value. -/
  | bool (b : Bool)
  /-- A text. -/
  | string (s : String)
  /-- A sequence of values. -/
  | array (items : List Bson)
  /-- A nested document, its fields in order. -/
  | document (fields : List (String × Bson))
  /-- A 32 bit integer. -/
  | int32 (n : Int32)
  /-- A 64 bit integer. -/
  | int64 (n : Int64)
  /-- A floating-point number. -/
  | double (d : Double)
  /-- A twelve byte object identifier. -/
  | objectId (bytes : List UInt8)
  /-- Milliseconds since the epoch. -/
  | date (milliseconds : Int64)
  /-- A time in seconds with a counter. -/
  | timestamp (time increment : UInt32)
  /-- Bytes, with a number that says what they mean; 0 if they mean nothing further. -/
  | binary (subtype : UInt8) (bytes : List UInt8)
  /-- A decimal floating-point number of sixteen bytes. -/
  | decimal128 (bytes : List UInt8)
  /-- A text that names something. -/
  | symbol (s : String)
  /-- A value that was never set. -/
  | undefined
  /-- A regular expression with its options. -/
  | regex (pattern options : String)
  /-- Code. -/
  | javaScript (code : String)
  /-- Code with the values of its free variables. -/
  | javaScriptWithScope (code : String) (scope : List (String × Bson))
  /-- What sorts before all other values. -/
  | minKey
  /-- What sorts after all other values. -/
  | maxKey
  /-- A reference to a document of another collection. -/
  | dbPointer (collection : String) (id : List UInt8)
  deriving Inhabited

namespace Bson

/-- The integer that an integer of either width or a double is read as; `none` for
doubles that are no integer, and for values of other types, decimals among them. -/
def toInt64? : Bson → Option Int64
  | .int32 n => some n.toInt64
  | .int64 n => some n
  | .double d => d.toInt64?
  | _ => none

/-- The text of a string value. -/
def toText? : Bson → Option String
  | .string s => some s
  | _ => none

end Bson

end Negotiation
