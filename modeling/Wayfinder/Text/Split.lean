namespace Wayfinder.Text

def splitAt (mark : Char) : List Char → List (List Char)
  | [] => [[]]
  | c :: cs =>
    if c = mark then [] :: splitAt mark cs
    else
      match splitAt mark cs with
      | part :: parts => (c :: part) :: parts
      | [] => [[c]]

end Wayfinder.Text
