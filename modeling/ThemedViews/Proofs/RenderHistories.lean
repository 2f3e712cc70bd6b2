import ThemedViews.Proofs.AddedEntries
import ThemedViews.Proofs.NestedRendering
import ThemedViews.Proofs.RendererPasses

/-!
# Histories of a renderer

A renderer is asked for texts and files again and again, and some of them fail.
Each pass begins without entries and leaves none behind, whatever has happened
in it, so that nothing but the nonce and the cached files comes from the past.
-/

namespace ThemedViews

open Text Tags Protection Parsing

section Pass

variable {κ ε : Type} (draw : StateM ε (Nat → Text)) (text : Text) (data : Scope)

/-- What a pass without entries gives is settled by its nonce. -/
theorem exists_renderText_eq (nonce : Text) :
    ∃ given : Except TemplateError Text, ∀ (protection : Protection) (account : ε),
      protection.nonce = nonce → protection.entries = [] →
        (TagParser.renderText (.standard draw) text data).run.run (protection, account) =
          (given, ({ protection with
            cumulative := true, pass := protection.pass + 1, entries := [] }, account)) := by
  have adds : AddsEntries (parse (some (outermostBridge : Handler ε)) text data) :=
    addsEntries_parse (addsEntries_bridge maxDepth) text data
  obtain ⟨found, added, ran⟩ := adds nonce []
  refine ⟨found.map (restore nonce added.reverse), ?_⟩
  intro protection account nonceEq idle
  rw [run_renderText draw text data
    (ran { protection with cumulative := true } account rfl nonceEq idle)]
  have restored (parsed : Text) :
      ((({ protection with cumulative := true } : Protection).extend added).inject parsed).1 =
        restore nonce added.reverse parsed := by
    rw [← nonceEq, Protection.inject, extend, idle, List.nil_append]
    rfl
  simp only [restored]
  rfl

/-- The same for a pass that is reported under a label. -/
theorem exists_renderNamed_eq (label : String) (nonce : Text) :
    ∃ given : Except ViewError Text, ∀ renderer : Renderer κ Protection ε,
      renderer.parser.nonce = nonce → renderer.parser.entries = [] →
        (outcome (Renderer.renderNamed (.standard draw) label text data) renderer).1 = given := by
  obtain ⟨given, ran⟩ := exists_renderText_eq draw text data nonce
  refine ⟨given.mapError (.parseFailure label), fun renderer nonceEq idle => ?_⟩
  rw [outcome, run_renderNamed, ran renderer.parser renderer.outside nonceEq idle]

end Pass

/-- Something that a renderer is asked for. -/
inductive Request where
  | string (text : Text) (data : Scope)
  | named (label : String) (text : Text) (data : Scope)
  | file (files : FileTree) (content : Nat) (path : Path) (data : Scope)

namespace Request

variable {κ π ε : Type}

def data : Request → Scope
  | .string _ data | .named _ _ data | .file _ _ _ data => data

/-- Has a renderer do what it is asked for, with the files that there are by then. -/
def perform (kind : TagParser π ε) : Request → Renderer.Pass κ π ε Text
  | .string text data => Renderer.renderString kind text data
  | .named label text data => Renderer.renderNamed kind label text data
  | .file files content path data => do
      modify fun renderer => { renderer with files }
      Renderer.renderFile kind content path data

/-- The label and the text of a request; the text of a file is the one that the
cache gives. -/
def subject (contents : Heap ContentCache) : Request → Except ViewError (String × Text)
  | .string text _ => .ok (Renderer.inlineLabel, text)
  | .named label text _ => .ok (label, text)
  | .file files content path _ =>
      ((contents.find content).load files path).1.map fun text => (path.text, text.toList)

/-- A renderer that has been asked for several things, one after another. -/
def performAll (kind : TagParser π ε) (history : List Request) (renderer : Renderer κ π ε) :
    Renderer κ π ε :=
  history.foldl (fun renderer request => (outcome (request.perform kind) renderer).2) renderer

section Standard

variable (draw : StateM ε (Nat → Text)) {renderer : Renderer κ Protection ε}

/-- A request leaves nothing pending. -/
theorem entries_perform (idle : renderer.parser.entries = []) (request : Request) :
    (outcome (request.perform (.standard draw)) renderer).2.parser.entries = [] := by
  cases request with
  | string text data => exact entries_renderNamed draw text data Renderer.inlineLabel renderer
  | named label text data => exact entries_renderNamed draw text data label renderer
  | file files content path data =>
      let opened : Renderer κ Protection ε := { renderer with files }
      cases loaded : opened.toSurroundings.load content path with
      | mk result later =>
          have rendered := outcome_renderFile (.standard draw) data loaded
          rw [perform, outcome_modify_bind, rendered]
          cases result with
          | ok text => exact entries_renderNamed draw _ data path.text _
          | error error => exact idle

theorem entries_performAll (idle : renderer.parser.entries = []) (history : List Request) :
    (performAll (.standard draw) history renderer).parser.entries = [] := by
  induction history generalizing renderer with
  | nil => exact idle
  | cons request history ih => exact ih (entries_perform draw idle request)

/-- What a renderer without entries gives for a request is what a new parser
with its nonce gives for the text that is asked for. -/
theorem perform_eq_alone (idle : renderer.parser.entries = []) (request : Request)
    (alone : Renderer κ Protection ε) (sameNonce : alone.parser.nonce = renderer.parser.nonce)
    (idleAlone : alone.parser.entries = []) :
    (outcome (request.perform (.standard draw)) renderer).1 =
      (request.subject renderer.contents).bind fun (label, text) =>
        (outcome (Renderer.renderNamed (.standard draw) label text request.data) alone).1 := by
  have agrees (label : String) (text : Text) (data : Scope) (around : Surroundings κ ε) :
      (outcome (Renderer.renderNamed (.standard draw) label text data)
          { renderer with toSurroundings := around }).1 =
        (outcome (Renderer.renderNamed (.standard draw) label text data) alone).1 := by
    obtain ⟨given, ran⟩ := exists_renderNamed_eq draw text data label renderer.parser.nonce
    rw [ran { renderer with toSurroundings := around } rfl idle, ran alone sameNonce idleAlone]
  cases request with
  | string text data => exact agrees Renderer.inlineLabel text data renderer.toSurroundings
  | named label text data => exact agrees label text data renderer.toSurroundings
  | file files content path data =>
      let opened : Renderer κ Protection ε := { renderer with files }
      cases loaded : opened.toSurroundings.load content path with
      | mk result later =>
          have rendered := outcome_renderFile (.standard draw) data loaded
          have found : ((renderer.contents.find content).load files path).1 = result := congrArg Prod.fst loaded
          rw [perform, outcome_modify_bind, rendered, subject, found]
          cases result with
          | ok text => exact agrees path.text text.toList data later
          | error error => rfl

/-- After any history a request leaves nothing pending, and it is answered as by
a new parser that has the nonce of the pass and knows nothing of the history. -/
theorem perform_after_history (around elsewhere : Surroundings κ ε) (nonces laterNonces : Nat → Text)
    (history : List Request) (request : Request) :
    let renderer := performAll (.standard draw) history ⟨around, .fresh nonces⟩
    let run := outcome (request.perform (.standard draw)) renderer
    let alone : Renderer κ Protection ε := ⟨elsewhere, .fresh (Function.update laterNonces 0 renderer.parser.nonce)⟩
    run.2.parser.entries = [] ∧
      run.1 = (request.subject renderer.contents).bind fun (label, text) =>
        (outcome (Renderer.renderNamed (.standard draw) label text request.data) alone).1 := by
  intro renderer run alone
  have idle : renderer.parser.entries = [] := entries_performAll draw rfl history
  refine ⟨entries_perform draw idle request, perform_eq_alone draw idle request alone ?_ rfl⟩
  exact Function.update_self 0 renderer.parser.nonce laterNonces

end Standard

end Request

end ThemedViews
