import ThemedViews.Tags.Recognition

/-!
# Protected texts

A text that must not be read as template is kept aside, and a placeholder stands for it until all is done. The
placeholders of one pass share a nonce; putting the protected texts back ends the pass, and the next nonce is
used from then on. An entry may hold placeholders of older entries, so the newest is put back first.
-/

namespace ThemedViews

/-- The texts protected in the current pass, oldest first, and the nonces of all passes. In cumulative mode,
protected texts stay aside until they are asked for. -/
structure Protection where
  cumulative : Bool
  nonces : Nat → Text
  pass : Nat
  entries : List Text

namespace Protection

/-- Nothing protected yet. -/
def fresh (nonces : Nat → Text) : Protection :=
  ⟨false, nonces, 0, []⟩

def nonce (protection : Protection) : Text :=
  protection.nonces protection.pass

/-- What the placeholders of a nonce begin with. -/
def placeholderStart (nonce : Text) : Text :=
  "__VIEWCRAFT_NOPARSE_".toList ++ nonce ++ ['_']

def placeholderOf (nonce : Text) (index : Nat) : Text :=
  placeholderStart nonce ++ Nat.toDigits 10 index ++ "__".toList

def placeholder (protection : Protection) (index : Nat) : Text :=
  placeholderOf protection.nonce index

/-- Keeps a text aside and gives its placeholder. -/
def protect (text : Text) (protection : Protection) : Text × Protection :=
  (protection.placeholder protection.entries.length,
    { protection with entries := protection.entries ++ [text] })

/-- Replaces the placeholders of entries, given newest first with the number of older ones. -/
def restore (nonce : Text) : (newestFirst : List Text) → Text → Text
  | [], content => content
  | entry :: older, content =>
      restore nonce older (Text.replace (placeholderOf nonce older.length) entry content)

/-- Puts all protected texts back and begins a new pass. -/
def inject (content : Text) (protection : Protection) : Text × Protection :=
  (restore protection.nonce protection.entries.reverse content,
    { protection with pass := protection.pass + 1, entries := [] })

/-- Puts placeholders in place of recognised texts. -/
def protectPieces : List (Text × Text) → Protection → Text × Protection
  | [], protection => ([], protection)
  | (before, inner) :: rest, protection =>
      let (mark, protection) := protection.protect inner
      let (behind, protection) := protectPieces rest protection
      (before ++ mark ++ behind, protection)

/-- Keeps the contents of all noparse blocks aside. -/
def protectBlocks (content : Text) (protection : Protection) : Text × Protection :=
  let pieces := Text.cut Tags.noparseBlock content
  let (text, protection) := protectPieces pieces.pieces protection
  (text ++ pieces.rest, protection)

end Protection

end ThemedViews
