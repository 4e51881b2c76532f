namespace GuardedDivision

def fields (separator : Char) : List Char → List (List Char)
  | [] => [[]]
  | c :: text =>
    if c = separator then [] :: fields separator text
    else match fields separator text with
      | [] => [[c]]
      | field :: rest => (c :: field) :: rest

end GuardedDivision
