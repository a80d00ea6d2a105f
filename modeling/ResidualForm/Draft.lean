import ResidualForm.Text.Cluster
import ResidualForm.Text.Utf8

/-!
# ResidualForm.Draft

A line of text being edited. The cursor counts clusters, so a move or a deletion never stops inside
a user-perceived character. Inserted text can merge with its neighbours; the cursor then stands
after as many clusters as the moves before it add up to, and never past the end.
-/

namespace ResidualForm

inductive Motion where
  | left
  | right
  | toStart
  | toEnd
  deriving DecidableEq, Repr

structure Draft where
  text : List Char := []
  cursor : Nat := 0
  deriving DecidableEq, Repr

namespace Draft

def size (d : Draft) : Nat :=
  Text.clusterCount d.text

def before (d : Draft) : List Char :=
  Text.takeClusters d.cursor d.text

def after (d : Draft) : List Char :=
  Text.dropClusters d.cursor d.text

@[simp] theorem before_append_after (d : Draft) : d.before ++ d.after = d.text :=
  Text.takeClusters_append_dropClusters d.cursor d.text

/-- The cursor's offset in the encoded text, in bytes. -/
def byteOffset (d : Draft) : Nat :=
  Text.byteLength d.before

/-- Moves the cursor forward by `n` clusters, at most to the end. -/
def advance (d : Draft) (n : Nat) : Draft :=
  { d with cursor := min (d.cursor + n) d.size }

def move (d : Draft) : Motion → Draft
  | .left => { d with cursor := d.cursor - 1 }
  | .right => d.advance 1
  | .toStart => { d with cursor := 0 }
  | .toEnd => { d with cursor := d.size }

/-- Puts `added` in at the cursor, which stays where it is. -/
def splice (d : Draft) (added : List Char) : Draft :=
  { d with text := d.before ++ added ++ d.after }

def insert (d : Draft) (c : Char) : Draft :=
  (d.splice [c]).advance 1

/-- Inserts a text; the cursor passes as many clusters as the text has on its own. -/
def paste (d : Draft) (added : List Char) : Draft :=
  (d.splice added).advance (Text.clusterCount added)

/-- The text without its cluster number `n`. -/
def without (d : Draft) (n : Nat) : List Char :=
  Text.takeClusters n d.text ++ Text.dropClusters (n + 1) d.text

def backspace (d : Draft) : Option Draft :=
  if d.cursor = 0 then none
  else some { text := d.without (d.cursor - 1), cursor := d.cursor - 1 }

def delete (d : Draft) : Option Draft :=
  if d.cursor < d.size then some { d with text := d.without d.cursor } else none

def ofText (text : List Char) : Draft :=
  { text, cursor := Text.clusterCount text }

end Draft
end ResidualForm
