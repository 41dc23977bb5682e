import Wayfinder.Site.Route

namespace Wayfinder.Site

inductive Part where
  | navBar
  | themeToggle
  | tocSidebar

inductive VisitStep where
  | openPage (sections : List Section)
  | openBare
  | toggleMenu
  | closeMenu
  | toggleTheme
  | select (id : String)
  | isActive (id : String)
  | sections
  | part (p : Part)
  | home
  | docs
  | route (url : String)
  | shell (url : String)
  | malformed

inductive VisitOutcome where
  | nothing
  | flag (b : Bool)
  | sections (l : List Section)
  | html (text : String)
  /-- A part cannot be rendered outside a page view. -/
  | noView
  | badUrl
  | badRequest

def Part.node (v : PageView) : Part → Node
  | navBar => Site.navBar v.shown
  | themeToggle => Site.themeToggle v.shown
  | tocSidebar => Site.tocSidebar v.shown v.sections

abbrev Visit := Option PageView

namespace Visit

variable (v : Visit)

def operate (op : PageView → PageView) : Visit × VisitOutcome :=
  match v with
  | some view => (some (op view.forget), .nothing)
  | none => (none, .badRequest)

def ask (question : PageView → VisitOutcome) : Visit × VisitOutcome :=
  match v with
  | some view => (some view.forget, question view)
  | none => (none, .badRequest)

def render (nodes : List Node) : Visit × VisitOutcome :=
  (v.map PageView.forget, .html (Node.renderAll nodes))

def follow (url : String) (html : Route → String) : Visit × VisitOutcome :=
  (v.map PageView.forget, (Route.ofUrl? url).elim .badUrl fun r ↦ .html (html r))

def perform : VisitStep → Visit × VisitOutcome
  | .openPage sections =>
    match PageView.ofSections? sections with
    | some view => (some view, .flag true)
    | none => (v.map PageView.forget, .flag false)
  | .openBare => (some PageView.bare, .nothing)
  | .toggleMenu => v.operate PageView.toggleMenu
  | .closeMenu => v.operate PageView.closeMenu
  | .toggleTheme => v.operate PageView.toggleTheme
  | .select id => v.operate fun view ↦ view.select id
  | .isActive id => v.ask fun view ↦ .flag (view.isActive id)
  | .sections => v.ask fun view ↦ .sections view.sections
  | .part p =>
    match v with
    | some view => v.render [p.node view]
    | none => (none, .noView)
  | .home => v.render homePage
  | .docs => v.render docsPage
  | .route url => v.follow url fun r ↦ Node.renderAll r.nodes
  | .shell url => v.follow url Route.shell
  | .malformed => (v.map PageView.forget, .badRequest)

def log : List String :=
  match v with
  | some view => view.machine.trace.filterMap fun
      | .noted (.debug text) => some text
      | _ => none
  | none => []

end Visit

end Wayfinder.Site
