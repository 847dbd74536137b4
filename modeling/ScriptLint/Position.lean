import ScriptLint.Value.Record

/-!
# Positions in a source file

Lines and columns count from one, offsets from zero.
-/

namespace ScriptLint

structure LineColumn where
  line : Nat
  column : Nat
  deriving DecidableEq, Repr

structure Span where
  start : Nat
  stop : Nat
  deriving DecidableEq, Repr

structure Position where
  line : Nat
  column : Nat
  span : Span
  deriving DecidableEq, Repr

namespace LineColumn

def zero : LineColumn := ⟨0, 0⟩

def record : Record LineColumn :=
  LineColumn.mk <$> .required "line" Decoder.natural32 <*> .required "column" Decoder.natural32

def decode : Decoder LineColumn := record.decode "LineCol"

def encode (place : LineColumn) : Value :=
  .object [("line", .int place.line), ("column", .int place.column)]

end LineColumn

namespace Span

def zero : Span := ⟨0, 0⟩

def point (offset : Nat) : Span := ⟨offset, offset⟩

def record : Record Span :=
  Span.mk <$> .required "start" Decoder.size <*> .required "end" Decoder.size

def decode : Decoder Span := record.decode "OffsetRange"

def encode (span : Span) : Value :=
  .object [("start", .int span.start), ("end", .int span.stop)]

def text (span : Span) : String := s!"{Text.natural span.start}..{Text.natural span.stop}"

end Span

namespace Position

def zero : Position := ⟨0, 0, .zero⟩

def of (place : LineColumn) (span : Span) : Position := ⟨place.line, place.column, span⟩

def record : Record Position :=
  Position.mk <$> .required "line" Decoder.natural32 <*> .required "column" Decoder.natural32
    <*> .required "span" Span.decode

def decode : Decoder Position := record.decode "Position"

def encode (position : Position) : Value :=
  .object [("line", .int position.line), ("column", .int position.column),
    ("span", position.span.encode)]

end Position

end ScriptLint
