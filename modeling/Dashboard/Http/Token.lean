namespace Dashboard.Http

def isTokenChar (c : Char) : Bool := c.isAlphanum || "!#$%&'*+-.^_`|~".toList.contains c

def isToken (text : List Char) : Bool := !text.isEmpty && text.all isTokenChar

end Dashboard.Http
