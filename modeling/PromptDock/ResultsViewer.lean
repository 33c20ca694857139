import PromptDock.Wechat.LoginManager

/-!
# Result pages

`results_viewer.rs` renders the Markdown of a result.  A filter between the
parser and the renderer turns raw HTML and images into text and drops links
that are not safe.  Whether it drops the end of a link is decided by a stack
of what it decided at the starts.

The parser is trusted to close what it opens, so its events are those of a
forest.  The filter makes of it the forest in which unsafe links are replaced
by what they enclose.
-/

namespace PromptDock.ResultsViewer

open Wechat

variable {α : Type}

/-- `Tag`.  Other tags, and fields that the filter does not read, are left
open. -/
inductive Tag (α : Type) where
  | link (destUrl : String) (fields : α)
  | image (fields : α)
  | other (tag : α)

/-- `TagEnd`. -/
inductive TagEnd (α : Type) where
  | link
  | image
  | other (tag : α)
deriving DecidableEq

/-- The variants of `Event` that stand alone. -/
inductive Leaf (α : Type) where
  | text (value : String)
  | html (value : String)
  | inlineHtml (value : String)
  | taskListMarker (done : Bool)
  | other (event : α)

/-- `Event`. -/
inductive Event (α : Type) where
  | start (tag : Tag α)
  | close (tag : TagEnd α)
  | leaf (event : Leaf α)

/-- `safe_link`. -/
def safeLink (parse : String → Option Url) (value : String) : Bool :=
  (parse value).any fun url =>
    (url.scheme == "http" || url.scheme == "https") && url.host.isSome && url.username.isEmpty &&
      url.password.isNone

/-- The closure in `markdown`, on events that stand alone. -/
def Leaf.shown : Leaf α → Leaf α
  | .html value | .inlineHtml value => .text value
  | .taskListMarker done => .text (if done then "[x] " else "[ ] ")
  | event => event

/-- The closure in `markdown`: the stack of decisions after an event, and what
becomes of the event. -/
def filterEvent (safe : String → Bool) (links : List Bool) :
    Event α → List Bool × Option (Event α)
  | .leaf event => (links, some (.leaf event.shown))
  | .start (.image _) => (links, some (.leaf (.text "[图片：")))
  | .close .image => (links, some (.leaf (.text "]（未加载外部图片）")))
  | .start (.link destUrl fields) =>
    let allowed := safe destUrl
    (allowed :: links, if allowed then some (.start (.link destUrl fields)) else none)
  | .close .link => (links.tail, if links.headD false then some (.close .link) else none)
  | event => (links, some event)

/-- `filter_map` with that closure. -/
def filterEvents (safe : String → Bool) : List Bool → List (Event α) → List (Event α)
  | _, [] => []
  | links, event :: events =>
    let (links, shown) := filterEvent safe links event
    shown.toList ++ filterEvents safe links events

/-- The events that `markdown` renders. -/
def markdown (parse : String → Option Url) (events : List (Event α)) : List (Event α) :=
  filterEvents (safeLink parse) [] events

/-! ## Balanced streams -/

/-- `Tag::to_end`. -/
def Tag.toEnd (ends : α → α) : Tag α → TagEnd α
  | .link _ _ => .link
  | .image _ => .image
  | .other tag => .other (ends tag)

/-- The open tags after an event, innermost first, unless it closes another tag
than the innermost. -/
def nestStep [DecidableEq α] (ends : α → α) : List (Tag α) → Event α → Option (List (Tag α))
  | stack, .start tag => some (tag :: stack)
  | tag :: stack, .close close => if tag.toEnd ends = close then some stack else none
  | [], .close _ => none
  | stack, .leaf _ => some stack

/-- The open tags after a stream. -/
def nest [DecidableEq α] (ends : α → α) (events : List (Event α)) : Option (List (Tag α)) :=
  events.foldlM (nestStep ends) []

/-- A stream of the parser, which closes what it opens. -/
structure Balanced [DecidableEq α] (ends : α → α) where
  events : List (Event α)
  closed : nest ends events = some []

/-- The tags that the filter keeps. -/
def Tag.kept (safe : String → Bool) : Tag α → Bool
  | .link destUrl _ => safe destUrl
  | .image _ => false
  | .other _ => true

/-- What was decided about the open links. -/
def decisions (safe : String → Bool) (stack : List (Tag α)) : List Bool :=
  stack.filterMap fun
    | .link destUrl _ => some (safe destUrl)
    | _ => none

/-- An event that may be rendered: no HTML, no image, no link but a safe one. -/
def Event.Shown (parse : String → Option Url) : Event α → Prop
  | .start (.link destUrl _) => ∃ url, parse destUrl = some url ∧
      (url.scheme = "http" ∨ url.scheme = "https") ∧ url.host.isSome ∧ url.username = "" ∧
      url.password = none
  | .start (.image _) | .close .image | .leaf (.html _) | .leaf (.inlineHtml _) => False
  | _ => True

section

variable [DecidableEq α] {ends : α → α} {safe : String → Bool} {stack opened : List (Tag α)}

/-- The stack of decisions follows the open tags: the end of a link finds on it
what was decided at the link's start. -/
theorem filterEvent_step {event : Event α} (h : nestStep ends stack event = some opened) :
    (filterEvent safe (decisions safe stack) event).1 = decisions safe opened ∧
      (filterEvent safe (decisions safe stack) event).2.toList.foldlM (nestStep ends)
        (stack.filter (Tag.kept safe)) = some (opened.filter (Tag.kept safe)) := by
  cases event with
  | leaf event =>
    cases h
    exact ⟨rfl, rfl⟩
  | start tag =>
    cases h
    cases tag with
    | link destUrl fields =>
      cases hsafe : safe destUrl <;> simp [filterEvent, decisions, hsafe, Tag.kept, nestStep]
    | image | other => exact ⟨rfl, rfl⟩
  | close close =>
    cases stack with
    | nil => cases h
    | cons tag stack =>
      obtain ⟨rfl, ⟨⟩⟩ := Option.ite_none_right_eq_some.mp h
      cases tag with
      | link destUrl fields =>
        cases hsafe : safe destUrl <;>
          simp [filterEvent, decisions, hsafe, Tag.kept, Tag.toEnd, nestStep]
      | image => exact ⟨rfl, rfl⟩
      | other => exact ⟨rfl, congrArg (· >>= pure) (if_pos rfl)⟩

/-- From any stack on, the tags left open are the kept ones of those open. -/
theorem filterEvents_run {events : List (Event α)}
    (h : events.foldlM (nestStep ends) stack = some opened) :
    (filterEvents safe (decisions safe stack) events).foldlM (nestStep ends)
      (stack.filter (Tag.kept safe)) = some (opened.filter (Tag.kept safe)) := by
  induction events generalizing stack with
  | nil =>
    cases h
    rfl
  | cons event events ih =>
    obtain ⟨next, hstep, hrest⟩ := Option.bind_eq_some_iff.mp h
    obtain ⟨hlinks, hshown⟩ := filterEvent_step hstep
    rw [filterEvents, List.foldlM_append, hlinks, hshown]
    exact ih hrest

end

variable {parse : String → Option Url} {event : Event α}

/-- What the filter lets through may be shown. -/
theorem shown_filterEvent {links : List Bool} {shown : Event α}
    (h : (filterEvent (safeLink parse) links event).2 = some shown) : shown.Shown parse := by
  rcases event with (⟨destUrl, fields⟩ | _ | _) | (_ | _ | _) | event
  case start.link =>
    obtain ⟨hsafe, ⟨⟩⟩ := Option.ite_none_right_eq_some.mp h
    obtain ⟨url, hurl, hall⟩ := (Option.any_eq_true _ _).mp hsafe
    simp only [Bool.and_eq_true, Bool.or_eq_true, beq_iff_eq] at hall
    exact ⟨url, hurl, by simpa [and_assoc] using hall⟩
  case leaf =>
    cases h
    cases event <;> trivial
  case close.link =>
    obtain ⟨_, ⟨⟩⟩ := Option.ite_none_right_eq_some.mp h
    trivial
  all_goals
    cases h
    trivial

/-- So it is for a stream. -/
theorem shown_filterEvents {links : List Bool} {events : List (Event α)}
    (h : event ∈ filterEvents (safeLink parse) links events) : event.Shown parse := by
  induction events generalizing links with
  | nil => cases h
  | cons first events ih =>
    rcases List.mem_append.mp h with hfirst | hmore
    · exact shown_filterEvent (Option.mem_toList.mp hfirst)
    · exact ih hmore

/-- Of a balanced stream `markdown` renders a balanced one.  At every point the
tags open in it are the kept ones of those open in the first, and no image and
no HTML is left. -/
theorem markdown_nested [DecidableEq α] (parse : String → Option Url) (ends : α → α)
    (stream : Balanced ends) : nest ends (markdown parse stream.events) = some [] ∧
      (∀ n, nest ends (markdown parse (stream.events.take n)) =
        (nest ends (stream.events.take n)).map (List.filter (Tag.kept (safeLink parse)))) ∧
      ∀ event ∈ markdown parse stream.events, event.Shown parse := by
  refine ⟨filterEvents_run stream.closed, fun n => ?_, fun event => shown_filterEvents⟩
  have hclosed := stream.closed
  rw [← stream.events.take_append_drop n, nest, List.foldlM_append] at hclosed
  obtain ⟨opened, hopened, _⟩ := Option.bind_eq_some_iff.mp hclosed
  rw [nest, nest, hopened]
  exact filterEvents_run hopened

/-- A safe link around an unsafe one, which encloses an image and HTML. -/
def linkInLink : Balanced (id : Unit → Unit) where
  events :=
    [.start (.link "https" ()), .start (.link "javascript" ()), .start (.image ()),
      .leaf (.inlineHtml "<b>"), .close .image, .close .link, .leaf (.text "more"), .close .link]
  closed := rfl

/-- A parser that takes the text for the scheme of an address. -/
def schemeOnly (value : String) : Option Url :=
  some ⟨value, some "host", "", none, none, "/", none, none, value⟩

/-- The outer link is closed by its own end. -/
theorem markdown_nested_sample :
    markdown schemeOnly linkInLink.events =
        [.start (.link "https" ()), .leaf (.text "[图片："), .leaf (.text "<b>"),
          .leaf (.text "]（未加载外部图片）"), .leaf (.text "more"), .close .link] ∧
      nest id (markdown schemeOnly linkInLink.events) = some [] ∧
      nest id (markdown schemeOnly (linkInLink.events.take 7)) = some [.link "https" ()] := by
  obtain ⟨hclosed, hopen, _⟩ := markdown_nested schemeOnly id linkInLink
  exact ⟨by rfl, hclosed, hopen 7⟩

/-- What the filter let through it lets through again. -/
theorem filterEvents_again {safe} (links : List Bool) (events : List (Event α)) :
    filterEvents safe (links.filter id) (filterEvents safe links events) =
      filterEvents safe links events := by
  induction events generalizing links with
  | nil => rfl
  | cons event events ih =>
    rcases event with (⟨destUrl, _⟩ | _ | _) | (_ | _ | _) | (_ | _ | _ | _ | _)
    case start.link =>
      cases hsafe : safe destUrl <;>
        simpa [filterEvents, filterEvent, hsafe] using ih (safe destUrl :: links)
    case close.link =>
      have ih := ih links.tail
      rcases links with _ | ⟨_ | _, _⟩ <;> simpa [filterEvents, filterEvent] using ih
    all_goals simpa [filterEvents, filterEvent, Leaf.shown] using ih links

/-- On any stream, balanced or not, the filter is idempotent. -/
theorem markdown_idempotent (parse : String → Option Url) (events : List (Event α)) :
    markdown parse (markdown parse events) = markdown parse events :=
  filterEvents_again [] events

end PromptDock.ResultsViewer
