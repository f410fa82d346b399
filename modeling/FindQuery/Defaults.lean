namespace FindQuery.Default

def limit : Int := 100

def skip : Int := 0

end FindQuery.Default
