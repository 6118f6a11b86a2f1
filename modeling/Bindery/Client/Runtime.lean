import Bindery.Code.Render
import Bindery.Naming.Reserved

/-!
# The runtime module

The code that all endpoints of a client share: connection settings, error types, the base of the
builders and the helpers that send requests.  It is the same text for every client, except for
the base URL.
-/

namespace Bindery.Client

open Bindery.Code

/-- The lines of the runtime module before the list of its exports. -/
def runtimeHeader : List String := [
  "\"\"\"Runtime support for the generated API bindings.",
  "",
  "This file is generated and will be overwritten on regeneration.",
  "\"\"\"",
  "",
  "from collections.abc import Mapping, Sequence",
  "from typing import Any, Generic, TypeVar",
  "",
  "import httpx",
  "from pydantic import BaseModel, ConfigDict, Field, TypeAdapter, ValidationError",
  ""]

/-- The lines of the runtime module after the base URL. -/
def runtimeBody : List String := [
  "",
  "T = TypeVar('T')",
  "",
  "OptionsT = TypeVar('OptionsT', bound=BaseModel)",
  "",
  "_DELIMITERS = \x7b'csv': ',', 'ssv': ' ', 'tsv': '\\t', 'pipes': '|'\x7d",
  "",
  "",
  "class MissingParameterError(ValueError):",
  "    \"\"\"A parameter the operation requires was left unset on its options value.\"\"\"",
  "",
  "    def __init__(self, operation: str, parameter: str) -> None:",
  "        self.operation = operation",
  "        self.parameter = parameter",
  "        super().__init__(",
  "            f\"\x7boperation\x7d: missing value for required parameter '\x7bparameter\x7d'\"",
  "        )",
  "",
  "",
  "class BuilderConsumedError(RuntimeError):",
  "    \"\"\"A builder was used again after build() handed over its value.\"\"\"",
  "",
  "    def __init__(self, builder: str) -> None:",
  "        self.builder = builder",
  "        super().__init__(f'\x7bbuilder\x7d has already been built; start a new builder')",
  "",
  "",
  "class ApiError(Exception):",
  "    \"\"\"The API answered with an error status.",
  "",
  "    Attributes:",
  "        status_code: The HTTP status code.",
  "        response: The raw httpx response.",
  "        entity: The body parsed as the operation's error type, when it matched.",
  "    \"\"\"",
  "",
  "    def __init__(",
  "        self,",
  "        message: str,",
  "        *,",
  "        status_code: int,",
  "        response: httpx.Response,",
  "        entity: Any = None,",
  "    ) -> None:",
  "        self.status_code = status_code",
  "        self.response = response",
  "        self.entity = entity",
  "        super().__init__(message)",
  "",
  "",
  "class Configuration(BaseModel):",
  "    \"\"\"Connection settings passed to every endpoint function.",
  "",
  "    ``client`` and ``async_client`` let callers supply preconfigured httpx",
  "    clients (authentication, transports, test clients); without them a",
  "    short-lived client is opened per request.",
  "    \"\"\"",
  "",
  "    model_config = ConfigDict(arbitrary_types_allowed=True)",
  "",
  "    base_url: str = BASE_URL",
  "    headers: dict[str, str] = Field(default_factory=dict)",
  "    timeout: float = 30.0",
  "    client: httpx.Client | None = None",
  "    async_client: httpx.AsyncClient | None = None",
  "",
  "",
  "class OptionsBuilder(Generic[OptionsT]):",
  "    \"\"\"Base class of generated builders.",
  "",
  "    Holds the options value being filled in. ``_finish`` hands it over and",
  "    retires the builder, so a builder produces exactly one value.",
  "    \"\"\"",
  "",
  "    __slots__ = ('_pending',)",
  "",
  "    def __init__(self, options: OptionsT) -> None:",
  "        self._pending: OptionsT | None = options",
  "",
  "    def _current(self) -> OptionsT:",
  "        if self._pending is None:",
  "            raise BuilderConsumedError(type(self).__name__)",
  "        return self._pending",
  "",
  "    def _finish(self) -> OptionsT:",
  "        options = self._current()",
  "        self._pending = None",
  "        return options",
  "",
  "",
  "def require(value: T | None, operation: str, parameter: str) -> T:",
  "    if value is None:",
  "        raise MissingParameterError(operation, parameter)",
  "    return value",
  "",
  "",
  "def format_collection(value: Sequence[Any] | None, collection_format: str) -> Any:",
  "    if value is None or collection_format == 'multi':",
  "        return value",
  "    return _DELIMITERS[collection_format].join(str(item) for item in value)",
  "",
  "",
  "def _jsonable(value: Any) -> Any:",
  "    return TypeAdapter(Any).dump_python(",
  "        value, mode='json', by_alias=True, exclude_none=True",
  "    )",
  "",
  "",
  "def _header_value(value: Any) -> str:",
  "    value = _jsonable(value)",
  "    if isinstance(value, bool):",
  "        return 'true' if value else 'false'",
  "    return str(value)",
  "",
  "",
  "def _present(values: Mapping[str, Any] | None) -> dict[str, Any]:",
  "    return \x7bkey: value for key, value in (values or \x7b\x7d).items() " ++
    "if value is not None\x7d",
  "",
  "",
  "def _request_kwargs(",
  "    configuration: Configuration,",
  "    params: Mapping[str, Any] | None,",
  "    headers: Mapping[str, Any] | None,",
  "    json: Any,",
  "    data: Mapping[str, Any] | None,",
  ") -> dict[str, Any]:",
  "    kwargs: dict[str, Any] = \x7b",
  "        'params': \x7bkey: _jsonable(value) for key, value in _present(params).items()\x7d,",
  "        'headers': \x7b",
  "            **configuration.headers,",
  "            **\x7bkey: _header_value(value) for key, value in _present(headers).items()\x7d,",
  "        \x7d,",
  "        'timeout': configuration.timeout,",
  "    \x7d",
  "    if json is not None:",
  "        kwargs['json'] = _jsonable(json)",
  "    form = _present(data)",
  "    if form:",
  "        kwargs['data'] = \x7bkey: _jsonable(value) for key, value in form.items()\x7d",
  "    return kwargs",
  "",
  "",
  "def _url(configuration: Configuration, path: str) -> str:",
  "    return f\"\x7bconfiguration.base_url.rstrip('/')\x7d\x7bpath\x7d\"",
  "",
  "",
  "def _parse(response: httpx.Response, response_model: Any, error_model: Any) -> Any:",
  "    if response.is_error:",
  "        entity = None",
  "        if error_model is not None and response.content:",
  "            try:",
  "                entity = TypeAdapter(error_model).validate_json(response.content)",
  "            except ValidationError:",
  "                # the raw body stays available on ApiError.response",
  "                entity = None",
  "        raise ApiError(",
  "            f'\x7bresponse.status_code\x7d \x7bresponse.reason_phrase\x7d',",
  "            status_code=response.status_code,",
  "            response=response,",
  "            entity=entity,",
  "        )",
  "    if response_model is None or not response.content:",
  "        return None",
  "    return TypeAdapter(response_model).validate_json(response.content)",
  "",
  "",
  "def request_sync(",
  "    configuration: Configuration,",
  "    method: str,",
  "    path: str,",
  "    *,",
  "    params: Mapping[str, Any] | None = None,",
  "    headers: Mapping[str, Any] | None = None,",
  "    json: Any = None,",
  "    data: Mapping[str, Any] | None = None,",
  "    response_model: Any = None,",
  "    error_model: Any = None,",
  ") -> Any:",
  "    kwargs = _request_kwargs(configuration, params, headers, json, data)",
  "    url = _url(configuration, path)",
  "    if configuration.client is not None:",
  "        response = configuration.client.request(method, url, **kwargs)",
  "    else:",
  "        with httpx.Client() as client:",
  "            response = client.request(method, url, **kwargs)",
  "    return _parse(response, response_model, error_model)",
  "",
  "",
  "async def request_async(",
  "    configuration: Configuration,",
  "    method: str,",
  "    path: str,",
  "    *,",
  "    params: Mapping[str, Any] | None = None,",
  "    headers: Mapping[str, Any] | None = None,",
  "    json: Any = None,",
  "    data: Mapping[str, Any] | None = None,",
  "    response_model: Any = None,",
  "    error_model: Any = None,",
  ") -> Any:",
  "    kwargs = _request_kwargs(configuration, params, headers, json, data)",
  "    url = _url(configuration, path)",
  "    if configuration.async_client is not None:",
  "        response = await configuration.async_client.request(method, url, **kwargs)",
  "    else:",
  "        async with httpx.AsyncClient() as client:",
  "            response = await client.request(method, url, **kwargs)",
  "    return _parse(response, response_model, error_model)",
  ""]

/-- The text of the runtime module before the base URL. -/
def runtimeStart : String :=
  "\n".intercalate <|
    runtimeHeader ++ [(exports Naming.runtimeNames).render, "", "BASE_URL = "]

/-- The text of the runtime module after the base URL. -/
def runtimeEnd : String := "\n".intercalate ("" :: runtimeBody)

/-- The runtime module of a client with a base URL. -/
def runtimeText (baseUrl : String) : String :=
  runtimeStart ++ Literal.quoted baseUrl ++ runtimeEnd

end Bindery.Client
