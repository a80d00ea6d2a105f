import ResidualForm.Text.Property.Joining

/-!
# ResidualForm.Text.Cluster

User-perceived characters. A text is cut into extended grapheme clusters by one pass from left to
right: each character is reduced to the part it plays (`Joint`), and what has been read since the
last cut is reduced to what still matters for the next one (`Tail`). A cut depends only on these
two, so a cluster never depends on what stands to its right.
-/

namespace ResidualForm
namespace Text

/-- The part a character plays where two characters meet. -/
inductive Joint where
  | other
  | cr
  | lf
  | control
  | extend
  | linker
  | nonJoiner
  | joiner
  | spacing
  | prepended
  | leading
  | vowel
  | trailing
  | openSyllable
  | closedSyllable
  | flag
  | pictograph
  | consonant
  deriving DecidableEq, Repr

/-- Characters below U+0300, where no mark, jamo or conjunct is found. -/
def lowJoint (c : Char) : Joint :=
  if c = '\r' then .cr
  else if c = '\n' then .lf
  else if c.toNat < 0x20 then .control
  else if c.toNat < 0x7F then .other
  else if c.toNat < 0xA0 || c.toNat = 0xAD then .control
  else if c.toNat = 0xA9 || c.toNat = 0xAE then .pictograph
  else .other

def highJoint (c : Char) : Joint :=
  if 0xAC00 ≤ c.toNat && c.toNat ≤ 0xD7A3 then
    if (c.toNat - 0xAC00) % 28 = 0 then .openSyllable else .closedSyllable
  else if c.toNat = 0x200C then .nonJoiner
  else if c.toNat = 0x200D then .joiner
  else if conjunctLinker.has c then .linker
  else if graphemeExtend.has c || emojiModifier.has c then .extend
  else if spacingMark.has c then .spacing
  else if controlCharacter.has c then .control
  else if hangulLeading.has c then .leading
  else if hangulVowel.has c then .vowel
  else if hangulTrailing.has c then .trailing
  else if regionalIndicator.has c then .flag
  else if pictographic.has c then .pictograph
  else if conjunctConsonant.has c then .consonant
  else if prepended.has c then .prepended
  else .other

def joint (c : Char) : Joint :=
  if c.toNat < 0x300 then lowJoint c else highJoint c

/-- What the end of a cluster still asks of the next character. -/
inductive Tail where
  | plain
  | cr
  | control
  | prepended
  | leading
  | vowel
  | trailing
  /-- A regional indicator without its partner. -/
  | flag
  /-- A pictograph and marks after it. -/
  | pictograph
  /-- The same, followed by one joiner. -/
  | joinedPictograph
  /-- A consonant and marks after it, none of them linking. -/
  | consonant
  /-- The same, with a linking sign among the marks. -/
  | linkedConsonant
  deriving DecidableEq, Repr

/-- The tail of a cluster that consists of one character. -/
def Joint.tail : Joint → Tail
  | .cr => .cr
  | .lf => .control
  | .control => .control
  | .prepended => .prepended
  | .leading => .leading
  | .vowel => .vowel
  | .openSyllable => .vowel
  | .trailing => .trailing
  | .closedSyllable => .trailing
  | .flag => .flag
  | .pictograph => .pictograph
  | .consonant => .consonant
  | _ => .plain

/-- Whether the next character belongs to the cluster. -/
def Tail.joins : Tail → Joint → Bool
  | .cr, .lf => true
  | .cr, _ => false
  | .control, _ => false
  | _, .cr => false
  | _, .lf => false
  | _, .control => false
  | _, .extend => true
  | _, .linker => true
  | _, .nonJoiner => true
  | _, .joiner => true
  | _, .spacing => true
  | .prepended, _ => true
  | .leading, .leading => true
  | .leading, .vowel => true
  | .leading, .openSyllable => true
  | .leading, .closedSyllable => true
  | .vowel, .vowel => true
  | .vowel, .trailing => true
  | .trailing, .trailing => true
  | .flag, .flag => true
  | .joinedPictograph, .pictograph => true
  | .linkedConsonant, .consonant => true
  | _, _ => false

/-- The tail after a character that joined the cluster. -/
def Tail.push : Tail → Joint → Tail
  | .flag, .flag => .plain
  | .pictograph, .extend => .pictograph
  | .pictograph, .linker => .pictograph
  | .pictograph, .nonJoiner => .pictograph
  | .pictograph, .joiner => .joinedPictograph
  | .consonant, .extend => .consonant
  | .consonant, .joiner => .consonant
  | .consonant, .linker => .linkedConsonant
  | .linkedConsonant, .extend => .linkedConsonant
  | .linkedConsonant, .joiner => .linkedConsonant
  | .linkedConsonant, .linker => .linkedConsonant
  | _, j => j.tail

/-- The rest of a cluster that ends in `tail` so far, and the clusters after it. -/
def clustersAfter (tail : Tail) : List Char → List Char × List (List Char)
  | [] => ([], [])
  | c :: rest =>
    if tail.joins (joint c) then
      match clustersAfter (tail.push (joint c)) rest with
      | (cluster, others) => (c :: cluster, others)
    else
      match clustersAfter (joint c).tail rest with
      | (cluster, others) => ([], (c :: cluster) :: others)

/-- The extended grapheme clusters of a text, from left to right. -/
def clusters : List Char → List (List Char)
  | [] => []
  | c :: rest =>
    match clustersAfter (joint c).tail rest with
    | (cluster, others) => (c :: cluster) :: others

/-- The length of a text as a reader counts it. -/
def clusterCount (text : List Char) : Nat :=
  (clusters text).length

def takeClusters (n : Nat) (text : List Char) : List Char :=
  ((clusters text).take n).flatten

def dropClusters (n : Nat) (text : List Char) : List Char :=
  ((clusters text).drop n).flatten

theorem clustersAfter_flatten (tail : Tail) (text : List Char) :
    (clustersAfter tail text).1 ++ (clustersAfter tail text).2.flatten = text := by
  induction text generalizing tail with
  | nil => rfl
  | cons c rest ih =>
    simp only [clustersAfter]
    split
    · simp [ih]
    · simp [ih]

@[simp] theorem clusters_flatten (text : List Char) : (clusters text).flatten = text := by
  cases text with
  | nil => rfl
  | cons c rest => simp [clusters, clustersAfter_flatten]

@[simp] theorem takeClusters_append_dropClusters (n : Nat) (text : List Char) :
    takeClusters n text ++ dropClusters n text = text := by
  rw [takeClusters, dropClusters, ← List.flatten_append, List.take_append_drop, clusters_flatten]

end Text
end ResidualForm
