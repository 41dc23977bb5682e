import Wayfinder.Markup
import Wayfinder.Registry
import Wayfinder.Session.Stage

namespace Wayfinder.Site

open Session

structure NavLink where
  label : String
  href : String
  isExternal : Bool

def navLinks : List NavLink :=
  [⟨"Documentation", "/docs", false⟩,
    ⟨"PyPI", "https://pypi.org/project/pygyat/", true⟩,
    ⟨"GitHub", "https://github.com/shamith09/pygyat", true⟩,
    ⟨"VS Code", "https://marketplace.visualstudio.com/items?itemName=shamith-pasula.vscode-pygyat",
      true⟩]

def classIf (condition : Bool) (name : String) : List String := if condition then [name] else []

def NavLink.node (l : NavLink) : Node :=
  let outside : List Attribute :=
    if l.isExternal then [⟨"target", "_blank"⟩, ⟨"rel", "noopener noreferrer"⟩] else []
  .element "a" (⟨"href", l.href⟩ :: outside) ["nav-bar__link"] [.text l.label]

def themeToggle (view : Snapshot) : Node :=
  .element "button" [⟨"title", "Toggle theme"⟩, ⟨"aria-label", "Toggle theme"⟩] ["btn",
    "nav-bar__theme-toggle"]
    [.text (if view.theme.isDark then "☀" else "☾")]

def menuBar : Node := .element "span" [] ["nav-bar__menu-bar"] []

def menuButton (view : Snapshot) : Node :=
  .element "button" [⟨"aria-label", "Toggle menu"⟩,
    ⟨"aria-expanded", if view.isOpen then "true" else "false"⟩]
    (["btn", "nav-bar__menu-button"] ++ classIf view.isOpen "open") [menuBar, menuBar, menuBar]

def brand : Node :=
  .element "a" [⟨"href", "/"⟩] ["nav-bar__brand"]
    [.void "img" [⟨"src", "/pygyat.png"⟩, ⟨"alt", "PyGyat Logo"⟩, ⟨"width", "32"⟩,
      ⟨"height", "32"⟩] [], .element "span" [] ["nav-bar__title"] [.text "PyGyat"]]

def backdrop (view : Snapshot) : List Node :=
  if view.isOpen then [.element "div" [] ["nav-bar__backdrop"] []] else []

def navBar (view : Snapshot) : Node :=
  let links := navLinks.map NavLink.node
  .element "nav" [] ["nav-bar"]
    (.element "div" [] ["nav-bar__inner"]
        [brand,
          .element "div" [] ["nav-bar__desktop"] (links ++ [themeToggle view]),
          .element "div" [] ["nav-bar__mobile"] [themeToggle view, menuButton view]] ::
      (backdrop view ++ [.element "div" [] ("nav-bar__panel" :: classIf view.isOpen "open") links]))

def tocEntry (view : Snapshot) (s : Section) : Node :=
  .element "button" [] ("toc-sidebar__entry" :: classIf (view.active = some s.id) "active")
    [.text s.label]

def tocSidebar (view : Snapshot) (sections : List Section) : Node :=
  .element "aside" [] ["toc-sidebar"]
    [.element "nav" [⟨"aria-label", "Table of contents"⟩] ["toc-sidebar__list"]
      (sections.map (tocEntry view))]

end Wayfinder.Site
