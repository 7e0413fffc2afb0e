import IfaceMonitor.Json.Record

namespace IfaceMonitor

inductive Counter
  | inOctets
  | inUcast
  | inMcast
  | inBcast
  | inDisc
  | inErr
  | outOctets
  | outUcast
  | outMcast
  | outBcast
  | outDisc
  | outErr
  deriving DecidableEq

namespace Counter

def all : List Counter :=
  [inOctets, inUcast, inMcast, inBcast, inDisc, inErr, outOctets, outUcast, outMcast, outBcast,
    outDisc, outErr]

def name : Counter → String
  | inOctets => "in_octets"
  | inUcast => "in_ucast"
  | inMcast => "in_mcast"
  | inBcast => "in_bcast"
  | inDisc => "in_disc"
  | inErr => "in_err"
  | outOctets => "out_octets"
  | outUcast => "out_ucast"
  | outMcast => "out_mcast"
  | outBcast => "out_bcast"
  | outDisc => "out_disc"
  | outErr => "out_err"

theorem mem_all (counter : Counter) : counter ∈ all := by
  cases counter <;> decide

end Counter

structure PerCounter (α : Type) where
  inOctets : α
  inUcast : α
  inMcast : α
  inBcast : α
  inDisc : α
  inErr : α
  outOctets : α
  outUcast : α
  outMcast : α
  outBcast : α
  outDisc : α
  outErr : α

namespace PerCounter

def get (r : PerCounter α) : Counter → α
  | .inOctets => r.inOctets
  | .inUcast => r.inUcast
  | .inMcast => r.inMcast
  | .inBcast => r.inBcast
  | .inDisc => r.inDisc
  | .inErr => r.inErr
  | .outOctets => r.outOctets
  | .outUcast => r.outUcast
  | .outMcast => r.outMcast
  | .outBcast => r.outBcast
  | .outDisc => r.outDisc
  | .outErr => r.outErr

def ofFn (f : Counter → α) : PerCounter α where
  inOctets := f .inOctets
  inUcast := f .inUcast
  inMcast := f .inMcast
  inBcast := f .inBcast
  inDisc := f .inDisc
  inErr := f .inErr
  outOctets := f .outOctets
  outUcast := f .outUcast
  outMcast := f .outMcast
  outBcast := f .outBcast
  outDisc := f .outDisc
  outErr := f .outErr

@[simp] theorem get_ofFn (f : Counter → α) (counter : Counter) :
    (ofFn f).get counter = f counter := by
  cases counter <;> rfl

theorem ext_get {r s : PerCounter α} (h : ∀ counter, r.get counter = s.get counter) : r = s := by
  cases r
  cases s
  congr
  · exact h .inOctets
  · exact h .inUcast
  · exact h .inMcast
  · exact h .inBcast
  · exact h .inDisc
  · exact h .inErr
  · exact h .outOctets
  · exact h .outUcast
  · exact h .outMcast
  · exact h .outBcast
  · exact h .outDisc
  · exact h .outErr

def zipWith (f : α → β → γ) (r : PerCounter α) (s : PerCounter β) : PerCounter γ :=
  ofFn fun counter => f (r.get counter) (s.get counter)

def missing : PerCounter (Option α) :=
  ofFn fun _ => none

def present (r : PerCounter (Option α)) : List Counter :=
  Counter.all.filter fun counter => (r.get counter).isSome

def decode (item : Json → Decoded α) (value : Json) : Decoded (PerCounter (Option α)) := do
  let fields ← value.record (Counter.all.map Counter.name)
  let read := fun (counter : Counter) =>
    Json.withDefault fields counter.name none (Json.optional item)
  return {
    inOctets := ← read .inOctets
    inUcast := ← read .inUcast
    inMcast := ← read .inMcast
    inBcast := ← read .inBcast
    inDisc := ← read .inDisc
    inErr := ← read .inErr
    outOctets := ← read .outOctets
    outUcast := ← read .outUcast
    outMcast := ← read .outMcast
    outBcast := ← read .outBcast
    outDisc := ← read .outDisc
    outErr := ← read .outErr }

def encode (item : α → Json) (r : PerCounter (Option α)) : Json :=
  .obj (Counter.all.map fun counter => (counter.name, Json.ofOption item (r.get counter)))

end PerCounter

end IfaceMonitor
