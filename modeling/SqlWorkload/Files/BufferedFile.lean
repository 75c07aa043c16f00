/-!
# Buffered files

A text file written through a buffer of fixed size. What has been written is in the file up to the
last time the buffer was emptied: when a piece no longer fitted it, or on request.

    (f.write s).written = f.written ++ s                          (written_write)
    f.flush.contents = f.written                                   (contents_flush)
-/

namespace SqlWorkload

/-! ## Algorithm -/

structure BufferedFile where
  /-- The whole text written. -/
  written : String := ""
  /-- How many of its bytes are in the file. -/
  stored : Nat := 0
deriving DecidableEq, Repr

/-- The size of the buffer in bytes. -/
def bufferSize : Nat := 8192

/-- How many bytes are in the file after a piece of `size` bytes, `total` bytes having been written
before it. A piece that does not fit empties the buffer, and one as large as the buffer passes
it by. -/
def storedAfter (stored total size : Nat) : Nat :=
  let stored := if bufferSize < total - stored + size then total else stored
  if bufferSize ≤ size then total + size else stored

/-- The longest part of a text with at most `n` bytes. -/
def takeBytes (n : Nat) : List Char → List Char
  | [] => []
  | c :: rest => if c.utf8Size ≤ n then c :: takeBytes (n - c.utf8Size) rest else []

namespace BufferedFile

/-- Writes a text in pieces of the given sizes. -/
def writePieces (f : BufferedFile) (s : String) (sizes : List Nat) : BufferedFile :=
  { written := f.written ++ s
    stored := (sizes.foldl
      (fun (stored, total) size => (storedAfter stored total size, total + size))
      (f.stored, f.written.utf8ByteSize)).1 }

/-- Writes a text in one piece. -/
def write (f : BufferedFile) (s : String) : BufferedFile := f.writePieces s [s.utf8ByteSize]

def flush (f : BufferedFile) : BufferedFile := { f with stored := f.written.utf8ByteSize }

/-- The text in the file. -/
def contents (f : BufferedFile) : String :=
  if f.written.utf8ByteSize ≤ f.stored then f.written
  else String.ofList (takeBytes f.stored f.written.toList)

/-! ## Lemmas -/

@[simp] theorem written_writePieces (f : BufferedFile) (s : String) (sizes : List Nat) :
    (f.writePieces s sizes).written = f.written ++ s := rfl

@[simp] theorem written_write (f : BufferedFile) (s : String) :
    (f.write s).written = f.written ++ s := rfl

@[simp] theorem written_flush (f : BufferedFile) : f.flush.written = f.written := rfl

@[simp] theorem contents_flush (f : BufferedFile) : f.flush.contents = f.written := by
  simp [contents, flush]

end BufferedFile

end SqlWorkload
