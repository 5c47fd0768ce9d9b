import LexGen.Text.Basic

/-!
# The engine

Every emitted module begins with the same text, the engine. It defines what the scanners of emitted modules
share: their input, their matching and their start conditions. It needs nothing but the standard library.
-/

namespace LexGen.Emission.Engine

def introduction : List String := [
  "\"\"\"Scanner runtime shared by in-process scanners and emitted modules.",
  "",
  "This module is stand-alone (standard library only). Its source is embedded",
  "verbatim at the top of every emitted lexer module, so it must never import",
  "relex.",
  "",
  "A Scanner walks its input with an ordered table of compiled patterns.",
  "Only the rules of the current start condition are tried, always in",
  "declared order:",
  "",
  "- default: the first rule that matches wins",
  "- ``flex`` option: the longest match wins, ties go to the earlier rule",
  "- ``backtrack_lexer`` option: an action may call reject() to hand the",
  "  match to the next rule that also matches",
  "",
  "Actions return a token (any non-None value) or None to keep scanning.",
  "An empty match whose action returns None and changes neither the input",
  "nor the condition stack is a lexical error.",
  "",
  "Thread Safety:",
  "Scanner instances hold all scan state on the instance. Use one per thread.",
  "",
  "\"\"\"",
  "",
  "import re",
  "import sys",
  "from collections.abc import Callable, Iterator, Mapping, Sequence",
  "from dataclasses import dataclass",
  "from types import SimpleNamespace",
  "from typing import Any, TextIO",
  "",
  "_NEWLINE = re.compile(r\"\\r\\n?|\\n\")"]

def records : List String := [
  "",
  "",
  "class LexicalError(Exception):",
  "    \"\"\"No rule of the current start condition matches the remaining input.\"\"\"",
  "",
  "    def __init__(self, message: str, lineno: int | None = None, text: str = \"\") -> None:",
  "        self.lineno = lineno",
  "        self.text = text",
  "        super().__init__(message)",
  "",
  "",
  "@dataclass(slots=True)",
  "class Location:",
  "    \"\"\"Line/column span of the current match (lines 1-indexed, columns 0-indexed).\"\"\"",
  "",
  "    first_line: int = 1",
  "    first_column: int = 0",
  "    last_line: int = 1",
  "    last_column: int = 0",
  "    range: tuple[int, int] | None = None",
  "",
  "",
  "@dataclass(frozen=True, slots=True)",
  "class Token:",
  "    \"\"\"A token produced by Scanner.tokenize().\"\"\"",
  "",
  "    type: object",
  "    value: str",
  "    location: Location",
  "",
  ""]

def construction : List String := [
  "class Scanner:",
  "    \"\"\"Table-driven scanner.",
  "",
  "    Class attributes hold the compiled tables; emitted modules subclass",
  "    Scanner and fill them in. In-process scanners pass them to __init__.",
  "    \"\"\"",
  "",
  "    EOF = 1",
  "",
  "    rules: Sequence[re.Pattern[str]] = ()",
  "    conditions: Mapping[str, dict[str, Any]] = \x7b\"INITIAL\": \x7b\"rules\": [], \"inclusive\": True\x7d\x7d",
  "    options: Mapping[str, Any] = \x7b\x7d",
  "    actions: Sequence[Callable[..., Any]] = ()",
  "",
  "    def __init__(",
  "        self,",
  "        rules: Sequence[re.Pattern[str]] | None = None,",
  "        conditions: Mapping[str, dict[str, Any]] | None = None,",
  "        options: Mapping[str, Any] | None = None,",
  "        actions: Sequence[Callable[..., Any]] | None = None,",
  "        output: TextIO | None = None,",
  "    ) -> None:",
  "        if rules is not None:",
  "            self.rules = rules",
  "        if conditions is not None:",
  "            self.conditions = conditions",
  "        if options is not None:",
  "            self.options = options",
  "        if actions is not None:",
  "            self.actions = actions",
  "        self.output = output",
  "        self.yy = SimpleNamespace()",
  "        self.set_input(\"\")",
  ""]

def inputLines : List String := [
  "    # =========================================================================",
  "    # Input handling",
  "    # =========================================================================",
  "",
  "    def set_input(self, text: str, yy: Any = None) -> \"Scanner\":",
  "        \"\"\"Reset scan state and start scanning ``text``.\"\"\"",
  "        if yy is not None:",
  "            self.yy = yy",
  "        self._input = text",
  "        self._pos = 0",
  "        self._more = False",
  "        self._backtrack = False",
  "        self.done = False",
  "        self.yylineno = 0",
  "        self.yyleng = 0",
  "        self.yytext = \"\"",
  "        self.matched = \"\"",
  "        self.match = \"\"",
  "        self.condition_stack = [\"INITIAL\"]",
  "        self.yylloc = Location(range=(0, 0) if self.options.get(\"ranges\") else None)",
  "        self.offset = 0",
  "        return self",
  "",
  "    def input(self) -> str:",
  "        \"\"\"Consume one character and append it to the current match.\"\"\"",
  "        if self._pos >= len(self._input):",
  "            return \"\"",
  "        ch = self._input[self._pos]",
  "        self._pos += 1",
  "        self.yytext += ch",
  "        self.yyleng += 1",
  "        self.offset += 1",
  "        self.match += ch",
  "        self.matched += ch",
  "        if ch == \"\\n\":",
  "            self.yylineno += 1",
  "            self.yylloc.last_line += 1",
  "        else:",
  "            self.yylloc.last_column += 1",
  "        if self.yylloc.range is not None:",
  "            start, end = self.yylloc.range",
  "            self.yylloc.range = (start, end + 1)",
  "        return ch",
  "",
  "    def unput(self, text: str) -> \"Scanner\":",
  "        \"\"\"Push ``text`` back onto the front of the remaining input.\"\"\"",
  "        size = len(text)",
  "        lines = _NEWLINE.split(text)",
  "        self._input = text + self._input[self._pos :]",
  "        self._pos = 0",
  "        self.yytext = self.yytext[: len(self.yytext) - size]",
  "        self.offset -= size",
  "        old_lines = _NEWLINE.split(self.match)",
  "        self.match = self.match[: len(self.match) - size]",
  "        self.matched = self.matched[: len(self.matched) - size]",
  "        if len(lines) > 1:",
  "            self.yylineno -= len(lines) - 1",
  "",
  "        loc = self.yylloc",
  "        anchor = len(old_lines) - len(lines)",
  "        last_column = (",
  "            (loc.first_column if anchor == 0 else 0)",
  "            + (len(old_lines[anchor]) if anchor >= 0 else 0)",
  "            - len(lines[0])",
  "        )",
  "        self.yylloc = Location(",
  "            first_line=loc.first_line,",
  "            first_column=loc.first_column,",
  "            last_line=self.yylineno + 1,",
  "            last_column=last_column,",
  "            range=(loc.range[0], loc.range[0] + self.yyleng - size) if loc.range is not None else None,",
  "        )",
  "        self.yyleng = len(self.yytext)",
  "        return self",
  "",
  "    def more(self) -> \"Scanner\":",
  "        \"\"\"Append the next match to the current one instead of replacing it.\"\"\"",
  "        self._more = True",
  "        return self",
  "",
  "    def reject(self) -> Any:",
  "        \"\"\"Hand the current match to the next matching rule (backtrack_lexer only).\"\"\"",
  "        if not self.options.get(\"backtrack_lexer\"):",
  "            return self.parse_error(",
  "                f\"Lexical error on line \x7bself.yylineno + 1\x7d. You can only invoke reject() \"",
  "                \"in the lexer when the lexer is of the backtracking persuasion \"",
  "                \"(options.backtrack_lexer = True).\\n\" + self.show_position(),",
  "                \x7b\"text\": \"\", \"token\": None, \"line\": self.yylineno\x7d,",
  "            )",
  "        self._backtrack = True",
  "        return self",
  "",
  "    def less(self, n: int) -> None:",
  "        \"\"\"Retain the first ``n`` characters of the match, return the rest to input.\"\"\"",
  "        self.unput(self.match[n:])",
  "",
  "    def echo(self, text: str) -> None:",
  "        \"\"\"Write matched text to the output stream (used by the flex catch-all rule).\"\"\"",
  "        (self.output or sys.stdout).write(text)",
  ""]

def diagnosticLines : List String := [
  "    # =========================================================================",
  "    # Diagnostics",
  "    # =========================================================================",
  "",
  "    def past_input(self) -> str:",
  "        \"\"\"Already matched input, up to 20 characters.\"\"\"",
  "        past = self.matched[: len(self.matched) - len(self.match)]",
  "        return (\"...\" if len(past) > 20 else \"\") + past[-20:].replace(\"\\n\", \"\")",
  "",
  "    def upcoming_input(self) -> str:",
  "        \"\"\"Upcoming input, up to 20 characters.\"\"\"",
  "        upcoming = self.match",
  "        if len(upcoming) < 20:",
  "            upcoming += self._input[self._pos : self._pos + 20 - len(upcoming)]",
  "        return (upcoming[:20] + (\"...\" if len(upcoming) > 20 else \"\")).replace(\"\\n\", \"\")",
  "",
  "    def show_position(self) -> str:",
  "        \"\"\"Past and upcoming input with a caret under the current position.\"\"\"",
  "        pre = self.past_input()",
  "        return pre + self.upcoming_input() + \"\\n\" + \"-\" * len(pre) + \"^\"",
  "",
  "    def parse_error(self, message: str, details: dict[str, Any]) -> Any:",
  "        parser = getattr(self.yy, \"parser\", None)",
  "        handler = getattr(parser, \"parse_error\", None)",
  "        if handler is not None:",
  "            return handler(message, details)",
  "        raise LexicalError(message, lineno=details.get(\"line\"), text=details.get(\"text\", \"\"))",
  ""]

def matchingLines : List String := [
  "    # =========================================================================",
  "    # Matching",
  "    # =========================================================================",
  "",
  "    def perform_action(self, yy: Any, yy_: \"Scanner\", rule_index: int, yy_start: str) -> Any:",
  "        \"\"\"Run the action of rule ``rule_index``; return its token or None.\"\"\"",
  "        return self.actions[rule_index](self, yy, yy_, yy_start)",
  "",
  "    def _test_match(self, found: re.Match[str], rule_index: int) -> Any:",
  "        backup = None",
  "        if self.options.get(\"backtrack_lexer\"):",
  "            backup = self._snapshot()",
  "",
  "        text = found.group(0)",
  "        lines = _NEWLINE.findall(text)",
  "        first = self.yylloc",
  "        self.yylineno += len(lines)",
  "        if lines:",
  "            tail = text[text.rfind(lines[-1]) + len(lines[-1]) :]",
  "            last_column = len(tail)",
  "        else:",
  "            last_column = first.last_column + len(text)",
  "        self.yylloc = Location(",
  "            first_line=first.last_line,",
  "            first_column=first.last_column,",
  "            last_line=self.yylineno + 1,",
  "            last_column=last_column,",
  "        )",
  "        self.yytext += text",
  "        self.match += text",
  "        self.yyleng = len(self.yytext)",
  "        if self.options.get(\"ranges\"):",
  "            self.yylloc.range = (self.offset, self.offset + self.yyleng)",
  "        self.offset += len(text)",
  "        self._more = False",
  "        self._backtrack = False",
  "        self._pos = found.end()",
  "        self.matched += text",
  "        before = (self._input, list(self.condition_stack)) if not text else None",
  "",
  "        token = self.perform_action(self.yy, self, rule_index, self.condition_stack[-1])",
  "        if self.done and self._pos < len(self._input):",
  "            self.done = False",
  "        if token is not None:",
  "            return token",
  "        if self._backtrack and backup is not None:",
  "            self._restore(backup)",
  "        elif (",
  "            before is not None",
  "            and not self._backtrack",
  "            and self._pos == found.end() < len(self._input)",
  "            and before == (self._input, self.condition_stack)",
  "        ):",
  "            # An empty match that changed nothing would be found again forever",
  "            return self.parse_error(",
  "                f\"Lexical error on line \x7bself.yylineno + 1\x7d. Rule \x7brule_index\x7d matched empty text \"",
  "                \"without consuming input.\\n\" + self.show_position(),",
  "                \x7b\"text\": \"\", \"token\": None, \"line\": self.yylineno\x7d,",
  "            )",
  "        return None",
  "",
  "    def _snapshot(self) -> tuple[Any, ...]:",
  "        return (",
  "            self.yylineno,",
  "            Location(",
  "                self.yylloc.first_line,",
  "                self.yylloc.first_column,",
  "                self.yylloc.last_line,",
  "                self.yylloc.last_column,",
  "                self.yylloc.range,",
  "            ),",
  "            self.yytext,",
  "            self.match,",
  "            self.matched,",
  "            self.yyleng,",
  "            self.offset,",
  "            self._more,",
  "            self._input,",
  "            self._pos,",
  "            list(self.condition_stack),",
  "            self.done,",
  "        )",
  "",
  "    def _restore(self, backup: tuple[Any, ...]) -> None:",
  "        (",
  "            self.yylineno,",
  "            self.yylloc,",
  "            self.yytext,",
  "            self.match,",
  "            self.matched,",
  "            self.yyleng,",
  "            self.offset,",
  "            self._more,",
  "            self._input,",
  "            self._pos,",
  "            self.condition_stack,",
  "            self.done,",
  "        ) = backup",
  "",
  "    def next(self) -> Any:",
  "        \"\"\"Scan one match; return a token, None when the action produced none, or EOF.\"\"\"",
  "        if self.done:",
  "            return self.EOF",
  "        if self._pos >= len(self._input):",
  "            self.done = True",
  "        if not self._more:",
  "            self.yytext = \"\"",
  "            self.match = \"\"",
  "",
  "        best: re.Match[str] | None = None",
  "        best_rule = -1",
  "        for rule_index in self.current_rules():",
  "            found = self.rules[rule_index].match(self._input, self._pos)",
  "            if found is None:",
  "                continue",
  "            if best is not None and len(found.group(0)) <= len(best.group(0)):",
  "                continue",
  "            best, best_rule = found, rule_index",
  "            if self.options.get(\"backtrack_lexer\"):",
  "                token = self._test_match(found, rule_index)",
  "                if token is not None:",
  "                    return token",
  "                if self._backtrack:",
  "                    best = None",
  "                    continue",
  "                return None",
  "            if not self.options.get(\"flex\"):",
  "                break",
  "",
  "        if best is not None:",
  "            return self._test_match(best, best_rule)",
  "        if self._pos >= len(self._input):",
  "            return self.EOF",
  "        return self.parse_error(",
  "            f\"Lexical error on line \x7bself.yylineno + 1\x7d. Unrecognized text.\\n\" + self.show_position(),",
  "            \x7b\"text\": \"\", \"token\": None, \"line\": self.yylineno\x7d,",
  "        )",
  "",
  "    def lex(self) -> Any:",
  "        \"\"\"Return the next token, skipping matches whose action produced none.\"\"\"",
  "        while True:",
  "            token = self.next()",
  "            if token is not None:",
  "                return token",
  "",
  "    def tokenize(self, text: str | None = None) -> Iterator[Token]:",
  "        \"\"\"Yield Token objects until end of input (EOF is not yielded).\"\"\"",
  "        if text is not None:",
  "            self.set_input(text)",
  "        while True:",
  "            token = self.lex()",
  "            if token == self.EOF and self.done:",
  "                return",
  "            yield Token(token, self.yytext, self.yylloc)",
  ""]

def conditionLines : List String := [
  "    # =========================================================================",
  "    # Start conditions",
  "    # =========================================================================",
  "",
  "    def begin(self, condition: str) -> None:",
  "        \"\"\"Activate ``condition`` (pushes it on the condition stack).\"\"\"",
  "        self.condition_stack.append(condition)",
  "",
  "    def pop_state(self) -> str:",
  "        \"\"\"Leave the current condition and return to the previous one.\"\"\"",
  "        if len(self.condition_stack) > 1:",
  "            return self.condition_stack.pop()",
  "        return self.condition_stack[0]",
  "",
  "    def push_state(self, condition: str) -> None:",
  "        self.begin(condition)",
  "",
  "    def top_state(self, n: int = 0) -> str:",
  "        \"\"\"Condition ``n`` levels below the top of the stack, or INITIAL.\"\"\"",
  "        index = len(self.condition_stack) - 1 - abs(n)",
  "        if index >= 0:",
  "            return self.condition_stack[index]",
  "        return \"INITIAL\"",
  "",
  "    def state_stack_size(self) -> int:",
  "        return len(self.condition_stack)",
  "",
  "    def current_rules(self) -> Sequence[int]:",
  "        \"\"\"Rule indices active in the current start condition.\"\"\"",
  "        if self.condition_stack and self.condition_stack[-1]:",
  "            return self.conditions[self.condition_stack[-1]][\"rules\"]",
  "        return self.conditions[\"INITIAL\"][\"rules\"]"]

def text : Text :=
  ("\n".intercalate (introduction ++ records ++ construction ++ inputLines ++ diagnosticLines ++
    matchingLines ++ conditionLines)).toList

end LexGen.Emission.Engine
