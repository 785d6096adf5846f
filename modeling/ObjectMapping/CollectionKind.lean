/-
This file lists the collections that can be built element by element and how each is written.
-/

namespace ObjectMapping

inductive CollectionKind
  | vec
  | vecDeque
  | linkedList
  | hashSet
  | bTreeSet
  | binaryHeap
  | boxedSlice
  | rcSlice
  | arcSlice
  deriving Repr, DecidableEq

namespace CollectionKind

def all : List CollectionKind :=
  [.vec, .vecDeque, .linkedList, .hashSet, .bTreeSet, .binaryHeap, .boxedSlice, .rcSlice, .arcSlice]

/-- The name that a report gives the collection. -/
def tag : CollectionKind → String
  | .vec => "Vec"
  | .vecDeque => "VecDeque"
  | .linkedList => "LinkedList"
  | .hashSet => "HashSet"
  | .bTreeSet => "BTreeSet"
  | .binaryHeap => "BinaryHeap"
  | .boxedSlice => "BoxedSlice"
  | .rcSlice => "RcSlice"
  | .arcSlice => "ArcSlice"

/-- Whether the collection is a slice behind an owning pointer. -/
def isSlice : CollectionKind → Bool
  | .boxedSlice | .rcSlice | .arcSlice => true
  | _ => false

/-- The identifier of the collection, or of the pointer that owns the slice. -/
def ident : CollectionKind → String
  | .vec => "Vec"
  | .vecDeque => "VecDeque"
  | .linkedList => "LinkedList"
  | .hashSet => "HashSet"
  | .bTreeSet => "BTreeSet"
  | .binaryHeap => "BinaryHeap"
  | .boxedSlice => "Box"
  | .rcSlice => "Rc"
  | .arcSlice => "Arc"

/-- The collection written with its element type, as in `Vec<T>` or `Box<[T]>`. -/
def ofGeneric? (ident : String) : Option CollectionKind :=
  all.find? fun kind => !kind.isSlice && kind.ident == ident

/-- The collection written with a slice of its element type behind the given pointer. -/
def ofSliceOwner? (ident : String) : Option CollectionKind :=
  all.find? fun kind => kind.isSlice && kind.ident == ident

/-- The collection written around the text of its element type. -/
def around (kind : CollectionKind) (element : String) : String :=
  if kind.isSlice then s!"{kind.ident}<[{element}]>" else s!"{kind.ident}<{element}>"

/-- The type that a chain of iterators is collected into. -/
def collectTarget (kind : CollectionKind) : String := kind.around "_"

/-- The path of the collection in the standard library, without its element type. -/
def standardPath : CollectionKind → String
  | .vec => "::std::vec::Vec"
  | .vecDeque => "::std::collections::VecDeque"
  | .linkedList => "::std::collections::LinkedList"
  | .hashSet => "::std::collections::HashSet"
  | .bTreeSet => "::std::collections::BTreeSet"
  | .binaryHeap => "::std::collections::BinaryHeap"
  | .boxedSlice => "::std::boxed::Box"
  | .rcSlice => "::std::rc::Rc"
  | .arcSlice => "::std::sync::Arc"

end CollectionKind

end ObjectMapping
