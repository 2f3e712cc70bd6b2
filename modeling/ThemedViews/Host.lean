import ThemedViews.MessageBag
import ThemedViews.Surroundings
import ThemedViews.TagParser

/-!
# Hosts

Tag parsers, renderables and the messages of a session are the work of the program around, the host; handles and data
have only names for them. A renderable may read all surroundings. It changes them by deeds and in no other way. A tag
parser reads and changes what it remembers and the outside, and a provider of messages only reads.
-/

namespace ThemedViews

/-- How a renderable is rendered. -/
structure Rendition (κ ε : Type) where
  render : ExceptT ViewError (StateM (Surroundings κ ε)) Text
  exists_deeds : ∀ around, ∃ deeds, (render.run.run around).2 = around.afterAll deeds

/-- What the program around supplies, by name: kinds of parsers, the messages of the current session if there is one,
and renderables. -/
structure Host (κ π ε : Type) where
  parser : κ → TagParser π ε
  messages : κ → Surroundings κ ε → Option MessageBag
  rendition : κ → Rendition κ ε

namespace Rendition

variable {κ ε : Type}

/-- A rendition that has to do with nothing but the outside. -/
def ofOutside (render : ExceptT ViewError (StateM ε) Text) : Rendition κ ε where
  render := ExceptT.mk <| modifyGet fun around =>
    let (result, outside) := render.run.run around.outside
    (result, { around with outside })
  exists_deeds _ := ⟨[.elsewhere _], rfl⟩

end Rendition

namespace Handle

variable {κ π ε : Type}

/-- The messages of the session, or none. -/
def errorBag (host : Host κ π ε) (around : Surroundings κ ε) (handle : Handle κ) : MessageBag :=
  (handle.errors.bind fun provider => host.messages provider around).getD .empty

end Handle

end ThemedViews
