import Wayfinder.Config
import Wayfinder.Document
import Wayfinder.Registry

namespace Wayfinder.Session

inductive PageOp where
  | userScroll (y : Length)
  | frame
  | settle
  | scrollTo (y : Length) (animated : Bool)
  | emit (batch : List Entry)
  | disableStorage (disabled : Bool)
  | read (key : String)
  | write (key value : String)
  | stored (key : String)
  | applyTheme (t : Theme)
  | scheme
  | anchor (id : String)
  | hits (band : Band)
  | requests
  /-- Opens another page; what was made on the old one stays there. -/
  | replace (page : Blueprint)
  | failRead (reason : Option String)
  | failWrite (reason : Option String)
  | failObserve (fails : Bool)

/-- A handle stands for a watch that was set up directly on the page. -/
inductive HandleOp where
  | inert
  | disconnect
  | inspect
  | drop

inductive StoreOp where
  | create (key : String)
  | load
  | toggle
  | unsubscribe (token : Nat)
  | drop

inductive SpyOp where
  | create (ids : List String) (band : Band)
  | observe
  | dispose
  | unsubscribe (token : Nat)
  | drop

inductive ScrollerOp where
  | create (headerOffset : Length)
  | reveal (id : String)

inductive MenuOp where
  | create (store : String) (sections : List Section) (headerOffset : Length) (band : Band)
  | createBare (store : String)
  /-- Gives the menu of another name this name too. -/
  | share (menu : String)
  | start
  | dispose
  | select (id : String)
  | toggle
  | close
  | toggleTheme
  | inspect (id : String)
  | drop

inductive Spot where
  | watch (handle : String) (ids : List String) (band : Band)
  | store (name : String)
  | spy (name : String)
  | menu (name : String)

inductive Step where
  | page (op : PageOp)
  | handle (name : String) (op : HandleOp)
  | store (name : String) (op : StoreOp)
  | spy (name : String) (op : SpyOp)
  | scroller (name : String) (op : ScrollerOp)
  | menu (name : String) (op : MenuOp)
  /-- Sets up a listener that takes the steps of `script` each of the first `limit` times it is
  called. -/
  | listen (spot : Spot) (label : String) (script : List Step) (limit : Nat)
  | malformed (name : String)

def PageOp.name : PageOp → String
  | userScroll _ => "user_scroll"
  | frame => "frame"
  | settle => "settle"
  | scrollTo _ _ => "scroll_to"
  | emit _ => "emit"
  | disableStorage _ => "disable"
  | read _ => "read"
  | write _ _ => "write"
  | stored _ => "stored"
  | applyTheme _ => "apply"
  | scheme => "scheme"
  | anchor _ => "anchor"
  | hits _ => "hits"
  | requests => "requests"
  | replace _ => "new_doc"
  | failRead _ => "fault"
  | failWrite _ => "fault"
  | failObserve _ => "fault"

def HandleOp.name : HandleOp → String
  | inert => "inert"
  | disconnect => "disconnect"
  | inspect => "handle"
  | drop => "handle_drop"

def StoreOp.name : StoreOp → String
  | create _ => "pref"
  | load => "pref_init"
  | toggle => "pref_toggle"
  | unsubscribe _ => "pref_unsub"
  | drop => "pref_drop"

def SpyOp.name : SpyOp → String
  | create _ _ => "spy"
  | observe => "spy_observe"
  | dispose => "spy_dispose"
  | unsubscribe _ => "spy_unsub"
  | drop => "spy_drop"

def ScrollerOp.name : ScrollerOp → String
  | create _ => "scroller"
  | reveal _ => "scroller_to"

def MenuOp.name : MenuOp → String
  | create _ _ _ _ => "menu"
  | createBare _ => "menu_bare"
  | share _ => "menu_clone"
  | start => "menu_start"
  | dispose => "menu_dispose"
  | select _ => "menu_select"
  | toggle => "menu_toggle"
  | close => "menu_close"
  | toggleTheme => "menu_theme"
  | inspect _ => "menu_get"
  | drop => "menu_drop"

def Spot.name : Spot → String
  | watch _ _ _ => "observe"
  | store _ => "pref_sub"
  | spy _ => "spy_sub"
  | menu _ => "menu_listen"

def Step.name : Step → String
  | page op => op.name
  | handle _ op => op.name
  | store _ op => op.name
  | spy _ op => op.name
  | scroller _ op => op.name
  | menu _ op => op.name
  | listen spot _ _ _ => spot.name
  | malformed name => name

mutual

/-- How many steps can follow from this one at most, itself and one report per script counted. -/
def Step.weight : Step → Nat
  | .listen _ _ script limit => 1 + limit * (1 + scriptWeight script)
  | _ => 1

def scriptWeight : List Step → Nat
  | [] => 0
  | s :: script => s.weight + scriptWeight script

end

end Wayfinder.Session
