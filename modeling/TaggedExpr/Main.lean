import TaggedExpr.Demo

/-! # The command line

Prints the demonstration.
-/

def main : IO Unit := IO.print TaggedExpr.Demo.output
