import ToolAssistant.Arithmetic.Evaluate
import ToolAssistant.Tool.Basic

/-!
# The calculator

The tool is the evaluator and nothing else: no other code sees the expression.
-/

namespace ToolAssistant.Calculator

/-- A refused expression as a failure. -/
def failure (error : Arithmetic.Error) : Failure :=
  .evaluation error.message

/-- The value of an expression as data. -/
def compute (expression : String) : Except Failure Json :=
  match Arithmetic.evaluate expression with
  | .ok value => .ok value.toJson
  | .error error => .error (failure error)

/-- The tool that evaluates arithmetic expressions. -/
def tool {σ : Type} : Tool σ :=
  .ofFunction
    { name := "math_calculator"
      description :=
        "Safely evaluate a basic arithmetic expression and return the numeric result."
      schema :=
        Schema.empty.required "expression" .string
          ("Arithmetic expression using numbers, parentheses and + - * / % ** " ++
            "(e.g. \"(234 * 12) + 98\")") }
    fun args => do compute (← args.string "expression")

end ToolAssistant.Calculator
