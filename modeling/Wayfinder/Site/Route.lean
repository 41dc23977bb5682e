import Wayfinder.Site.Chrome
import Wayfinder.Site.Content
import Wayfinder.Site.PageView
import Wayfinder.Url.Basic

namespace Wayfinder.Site

def homePage : List Node := [navBar PageView.bare.shown, homeContent]

/-- The documentation is framed only if its sections can form a table of contents. -/
def docsChrome : List Node :=
  match PageView.ofSections? docsSections with
  | some v => [navBar v.shown, tocSidebar v.shown v.sections]
  | none => []

def docsPage : List Node :=
  [.element "div" [] ["docs-page"]
    (docsChrome ++ [.element "main" [] ["docs-page__content"] docsContent])]

inductive Route where
  | home
  | docs
  | notFound
deriving DecidableEq, Repr

/-- Only the path of a request matters, and a slash at its end does not. -/
def Route.ofPath (path : Url.Path) : Route :=
  match String.ofList path.text with
  | "" | "/" => .home
  | "/docs" | "/docs/" => .docs
  | _ => .notFound

def Route.ofUrl? (url : String) : Option Route := (Url.path? url).map ofPath

def Route.nodes : Route → List Node
  | home => homePage
  | docs => docsPage
  | notFound => [.text "Page not found."]

def head : Node :=
  .element "head" [] []
    [.void "meta" [⟨"charset", "utf-8"⟩] [],
      .void "meta" [⟨"name", "viewport"⟩, ⟨"content", "width=device-width, initial-scale=1"⟩] [],
      .void "link" [⟨"id", "leptos"⟩, ⟨"rel", "stylesheet"⟩, ⟨"href", "/pkg/docnav.css"⟩] [],
      .element "title" [] [] [.text "PyGyat"]]

def Route.shell (r : Route) : String :=
  "<!DOCTYPE html>" ++
    Node.renderAll [.element "html" [⟨"lang", "en"⟩] [] [head, .element "body" [] [] r.nodes]]

end Wayfinder.Site
