/-
This file lists the built-in scalar types and the conversions between them that lose nothing.
-/

namespace ObjectMapping

inductive Scalar
  | bool
  | char
  | i8
  | i16
  | i32
  | i64
  | i128
  | isize
  | u8
  | u16
  | u32
  | u64
  | u128
  | usize
  | f32
  | f64
  | string
  deriving Repr, DecidableEq

namespace Scalar

def all : List Scalar :=
  [.bool, .char, .i8, .i16, .i32, .i64, .i128, .isize, .u8, .u16, .u32, .u64, .u128, .usize, .f32,
    .f64, .string]

/-- The identifier that the type is written with. -/
def ident : Scalar → String
  | .bool => "bool"
  | .char => "char"
  | .i8 => "i8"
  | .i16 => "i16"
  | .i32 => "i32"
  | .i64 => "i64"
  | .i128 => "i128"
  | .isize => "isize"
  | .u8 => "u8"
  | .u16 => "u16"
  | .u32 => "u32"
  | .u64 => "u64"
  | .u128 => "u128"
  | .usize => "usize"
  | .f32 => "f32"
  | .f64 => "f64"
  | .string => "String"

def ofIdent? (ident : String) : Option Scalar := all.find? (·.ident == ident)

theorem ofIdentIdent (scalar : Scalar) : ofIdent? scalar.ident = some scalar := by
  cases scalar <;> rfl

/-- The name that a report gives the type. -/
def tag : Scalar → String
  | .bool => "Bool"
  | .char => "Char"
  | .i8 => "I8"
  | .i16 => "I16"
  | .i32 => "I32"
  | .i64 => "I64"
  | .i128 => "I128"
  | .isize => "Isize"
  | .u8 => "U8"
  | .u16 => "U16"
  | .u32 => "U32"
  | .u64 => "U64"
  | .u128 => "U128"
  | .usize => "Usize"
  | .f32 => "F32"
  | .f64 => "F64"
  | .string => "String"

/-- Whether values are copied rather than moved. -/
def isCopy : Scalar → Bool
  | .string => false
  | _ => true

/-- The types that hold every value of the given one and have a conversion from it. -/
def wider : Scalar → List Scalar
  | .bool =>
      [.i8, .i16, .i32, .i64, .i128, .isize, .u8, .u16, .u32, .u64, .u128, .usize]
  | .char => [.u32, .u64, .u128]
  | .u8 =>
      [.u16, .u32, .u64, .u128, .usize, .i16, .i32, .i64, .i128, .isize, .f32, .f64, .char]
  | .u16 => [.u32, .u64, .u128, .usize, .i32, .i64, .i128, .f32, .f64]
  | .u32 => [.u64, .u128, .i64, .i128, .f64]
  | .u64 => [.u128, .i128]
  | .i8 => [.i16, .i32, .i64, .i128, .isize, .f32, .f64]
  | .i16 => [.i32, .i64, .i128, .isize, .f32, .f64]
  | .i32 => [.i64, .i128, .f64]
  | .i64 => [.i128]
  | .f32 => [.f64]
  | .i128 | .isize | .u128 | .usize | .f64 | .string => []

def widensTo (source target : Scalar) : Bool := source.wider.contains target

end Scalar

end ObjectMapping
