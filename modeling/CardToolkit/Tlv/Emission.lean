import CardToolkit.Fault

/-!
# Emissions

A writer puts bytes at the end of a buffer, and may find half-way that it cannot
go on; what it has put there stays. What it has written, and why it stopped, is
an *emission*. Emissions follow each other (`++`) as writers do: after one that
stopped, nothing more is written.

* `Emission.putOn`: the buffer after an emission;
* `Emission.result`: the bytes of an emission that did not stop.
-/

namespace CardToolkit

/-- The bytes that a writer has written, and the fault at which it stopped, if it
    did. -/
structure Emission where
  bytes : List UInt8
  fault : Option EncodingFault
  deriving DecidableEq

namespace Emission

/-- Nothing is written. -/
def empty : Emission := ⟨[], none⟩

/-- The bytes are written. -/
def write (bs : List UInt8) : Emission := ⟨bs, none⟩

/-- Writing stops. -/
def stop (f : EncodingFault) : Emission := ⟨[], some f⟩

/-- One emission after the other, unless the first has stopped. -/
def append (e e' : Emission) : Emission :=
  match e.fault with
  | some _ => e
  | none => ⟨e.bytes ++ e'.bytes, e'.fault⟩

instance : Append Emission := ⟨append⟩

/-- The buffer after an emission. -/
def putOn (e : Emission) (buffer : List UInt8) : List UInt8 := buffer ++ e.bytes

/-- The bytes of an emission, or the fault at which it stopped. -/
def result (e : Emission) : Except EncodingFault (List UInt8) :=
  match e.fault with
  | some f => .error f
  | none => .ok e.bytes

/-- Emissions one after the other. -/
def concat : List Emission → Emission
  | [] => empty
  | e :: es => e ++ concat es

@[simp] theorem write_append (bs : List UInt8) (e : Emission) :
    write bs ++ e = ⟨bs ++ e.bytes, e.fault⟩ := rfl

@[simp] theorem stop_append (f : EncodingFault) (e : Emission) : stop f ++ e = stop f := rfl

@[simp] theorem append_empty (e : Emission) : e ++ empty = e := by
  obtain ⟨bs, f⟩ := e
  cases f with
  | none => exact congrArg (Emission.mk · none) (List.append_nil bs)
  | some f => rfl

@[simp] theorem result_write (bs : List UInt8) : (write bs).result = .ok bs := rfl

@[simp] theorem result_stop (f : EncodingFault) : (stop f).result = .error f := rfl

end Emission

end CardToolkit
