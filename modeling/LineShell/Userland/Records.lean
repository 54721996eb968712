import LineShell.Userland.Basic
/-!
# Records

Bytes are cut into records behind every byte that ends one, which need not be a line feed.
-/

namespace LineShell.Userland

/-- Bytes cut behind every byte that ends a record. -/
def recordsOf (ending : UInt8) (bytes : Bytes) : List Bytes :=
  let swap := fun (b : UInt8) => if b = 10 then ending else if b = ending then 10 else b
  if ending = 10 then rawLines bytes else (rawLines (bytes.map swap)).map (fun l => l.map swap)

/-- The records without the bytes that end them. -/
def recordTexts (ending : UInt8) (bytes : Bytes) : List Bytes :=
  (recordsOf ending bytes).map (fun l => if l.getLast? == some ending then l.dropLast else l)

/-- Bytes enough of a stream for every search that ends. -/
def searchable (s : Stream) : Bytes :=
  if s.cycle.isEmpty then s.bytes
  else (s.unroll (s.bytes.length + 65536 / s.cycle.length * s.cycle.length)).bytes

end LineShell.Userland
