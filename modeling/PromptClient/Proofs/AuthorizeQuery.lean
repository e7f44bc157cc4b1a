import PromptClient.Authorize
import PromptClient.Proofs.Encoding

/-! # What an authorize request tells

The parameters of an authorize request can be read off its URL again, in their order and with
their values, whatever the values are. None of them reaches into another one, and what stands in
front of the last question mark is the address as it is. -/

namespace PromptClient

namespace Text.Percent

/-- The text that an encoded text stands for, if there is one. -/
def text? (written : List Char) : Option String :=
  (decode? written).bind Utf8.decode?

theorem text?_encode (text : String) : text? (encode text).toList = some text := by
  rw [text?, decode?_encode, Option.bind_some, Utf8.decode?_encode]

theorem encode_free {stop : Char} (parts : stop ∈ UrlParts.delimiters) (text : String) :
    stop ∉ (encode text).toList :=
  (UrlParts.inert_of_encoded (encoded_encode text)).not_mem parts

end Text.Percent

/-! ## Reading a query -/

namespace UrlParts

/-- Name and value as they were before they were encoded. -/
def readParameter? : QueryParameter → Option (String × String)
  | (_, none) => none
  | (name, some value) => do
      let readName ← Text.Percent.text? name
      let readValue ← Text.Percent.text? value
      some (readName, readValue)

/-- The parameters of a query in order, if each is a name with a value. -/
def readQuery? (query : List Char) : Option (List (String × String)) :=
  (parametersOf query).mapM readParameter?

/-- All values that a query gives to a name. -/
def valuesOf (name : String) (query : List Char) : List String :=
  (((readQuery? query).getD []).filter (·.1 = name)).map (·.2)

/-- A parameter as it stands in a query. -/
def written (parameter : String × String) : String :=
  Text.Percent.encode parameter.1 ++ "=" ++ Text.Percent.encode parameter.2

theorem toList_written (parameter : String × String) :
    (written parameter).toList = (Text.Percent.encode parameter.1).toList ++
      '=' :: (Text.Percent.encode parameter.2).toList := by
  simp [written]

theorem written_free (parameter : String × String) : '&' ∉ (written parameter).toList := by
  have free := Text.Percent.encode_free (by decide : '&' ∈ delimiters)
  rw [toList_written, List.mem_append, List.mem_cons]
  rintro (name | equals | value)
  · exact free _ name
  · exact absurd equals (by decide)
  · exact free _ value

theorem readParameter?_written (parameter : String × String) :
    readParameter? (Text.cutAt '=' (written parameter).toList) = some parameter := by
  have free := Text.Percent.encode_free (by decide : '=' ∈ delimiters) parameter.1
  rw [toList_written, Text.cutAt_append_stop free]
  simp [readParameter?, Text.Percent.text?_encode]

theorem mapM_written (parameters : List (String × String)) :
    (parameters.mapM fun parameter =>
      readParameter? (Text.cutAt '=' (written parameter).toList)) = some parameters := by
  induction parameters with
  | nil => rfl
  | cons parameter rest induction =>
      rw [List.mapM_cons, induction, readParameter?_written]
      rfl

/-- Parameters are read as they were written, whatever their names and values are. -/
theorem readQuery?_written {parameters : List (String × String)} (some : parameters ≠ []) :
    readQuery? (String.intercalate "&" (parameters.map written)).toList =
      Option.some parameters := by
  have apart : Text.splitWhere (· = '&')
      (String.intercalate "&" (parameters.map written)).toList =
        parameters.map fun parameter => (written parameter).toList := by
    rw [String.toList_intercalate, List.map_map]
    apply Text.splitWhere_intercalate
    · intro part found
      rcases List.mem_map.mp found with ⟨parameter, -, rfl⟩
      exact written_free parameter
    · simpa using some
  rw [readQuery?, parametersOf, apart, List.map_map, List.mapM_map]
  exact mapM_written parameters

/-- What a query is made up of. -/
theorem written_chars (parameters : List (String × String)) :
    ∀ char ∈ (String.intercalate "&" (parameters.map written)).toList,
      Text.Percent.isUnreserved char = true ∨ char ∈ "%=&".toList := by
  have encoded : ∀ text, ∀ char ∈ (Text.Percent.encode text).toList,
      Text.Percent.isUnreserved char = true ∨ char ∈ "%=&".toList := by
    intro text char found
    rcases (Text.Percent.encoded_encode text).unreserved char found with plain | rfl
    · exact .inl plain
    · exact .inr (by decide)
  intro char found
  rw [String.toList_intercalate, List.map_map] at found
  rcases Text.mem_of_mem_intercalate found with rfl | ⟨part, present, own⟩
  · exact .inr (by decide)
  · rcases List.mem_map.mp present with ⟨parameter, -, rfl⟩
    rw [Function.comp_apply, toList_written, List.mem_append, List.mem_cons] at own
    rcases own with name | rfl | value
    · exact encoded _ char name
    · exact .inr (by decide)
    · exact encoded _ char value

/-- Behind an address without a query and a fragment, a query is the whole query. -/
theorem ofText_query {address query : List Char} (noFragment : '#' ∉ address)
    (noQuery : '?' ∉ address) (plain : '#' ∉ query) :
    ofText (address ++ '?' :: query) =
      ⟨Text.splitWhere (· = '/') address, some (parametersOf query), none⟩ := by
  have shown : '#' ∉ address ++ '?' :: query := by
    simp [noFragment, plain]
  simp only [ofText, Text.cutAt_of_not_mem shown, Text.cutAt_append_stop noQuery,
    Option.map_some]

end UrlParts

/-! ## Authorize requests -/

namespace AuthorizeSettings

/-- What stands after the address of a request. -/
def query (settings : AuthorizeSettings) (returnPage : String) : String :=
  String.intercalate "&" <| (settings.parameters returnPage).map fun (name, value) =>
    name ++ "=" ++ Text.Percent.encode value

theorem url_eq (settings : AuthorizeSettings) (returnPage : String) :
    settings.url returnPage = settings.authorizeUrl ++ "?" ++ settings.query returnPage :=
  rfl

theorem parameters_eq (provider : Provider) (settings : ProviderSettings) (returnPage : String) :
    (ofProvider provider settings).parameters returnPage =
      [(scopeParameterOf provider, settings.scope.getD (defaultScope provider))] ++
        [("client_id", settings.clientId)] ++
        (settings.redirectUri.map fun uri => ("redirect_uri", uri)).toList ++
        [("response_type", "code")] ++ [("state", returnPage)] := by
  cases redirect : settings.redirectUri <;> simp [parameters, ofProvider, redirect]

/-- The names of a provider's parameters need no encoding. -/
theorem encode_name (provider : Provider) (settings : ProviderSettings) (returnPage : String) :
    ∀ parameter ∈ (ofProvider provider settings).parameters returnPage,
      Text.Percent.encode parameter.1 = parameter.1 := by
  have scope : Text.Percent.encode (scopeParameterOf provider) = scopeParameterOf provider := by
    cases provider <;> decide +kernel
  have others : ∀ name ∈ ["client_id", "redirect_uri", "response_type", "state"],
      Text.Percent.encode name = name := by
    decide +kernel
  rw [parameters_eq]
  cases settings.redirectUri <;> simp [scope, others]

theorem query_eq (provider : Provider) (settings : ProviderSettings) (returnPage : String) :
    (ofProvider provider settings).query returnPage =
      String.intercalate "&"
        (((ofProvider provider settings).parameters returnPage).map UrlParts.written) := by
  rw [query]
  congr 1
  apply List.map_congr_left
  intro parameter found
  rw [UrlParts.written, encode_name provider settings returnPage parameter found]

theorem readQuery?_query (provider : Provider) (settings : ProviderSettings)
    (returnPage : String) :
    UrlParts.readQuery? ((ofProvider provider settings).query returnPage).toList =
      some ((ofProvider provider settings).parameters returnPage) := by
  rw [query_eq, UrlParts.readQuery?_written]
  simp [parameters]

theorem query_chars (provider : Provider) (settings : ProviderSettings) (returnPage : String) :
    ∀ char ∈ ((ofProvider provider settings).query returnPage).toList,
      Text.Percent.isUnreserved char = true ∨ char ∈ "%=&".toList := by
  rw [query_eq]
  exact UrlParts.written_chars _

theorem query_free (provider : Provider) (settings : ProviderSettings) (returnPage : String)
    {stop : Char} (reserved : Text.Percent.isUnreserved stop = false)
    (apart : stop ∉ "%=&".toList) :
    stop ∉ ((ofProvider provider settings).query returnPage).toList := by
  intro found
  rcases query_chars provider settings returnPage stop found with plain | mark
  · rw [reserved] at plain
    cases plain
  · exact apart mark

/-- Every name has the values that are given for it, and no others. -/
theorem valuesOf_query (provider : Provider) (settings : ProviderSettings) (returnPage : String)
    (name : String) :
    UrlParts.valuesOf name ((ofProvider provider settings).query returnPage).toList =
      (if scopeParameterOf provider = name then
        [settings.scope.getD (defaultScope provider)] else []) ++
      (if "client_id" = name then [settings.clientId] else []) ++
      (if "redirect_uri" = name then settings.redirectUri.toList else []) ++
      (if "response_type" = name then ["code"] else []) ++
      (if "state" = name then [returnPage] else []) := by
  have single : ∀ key value : String,
      (([(key, value)].filter (·.1 = name)).map (·.2) : List String) =
        if key = name then [value] else [] := by
    intro key value
    by_cases same : key = name <;> simp [same]
  rw [UrlParts.valuesOf, readQuery?_query, Option.getD_some, parameters_eq]
  simp only [List.filter_append, List.map_append, single]
  cases redirect : settings.redirectUri with
  | none => simp
  | some uri => simp only [Option.map_some, Option.toList_some, single]

/-- What is set for another name makes no difference to the values of a name. -/
theorem valuesOf_query_congr {provider : Provider} {settings other : ProviderSettings}
    {page otherPage name : String}
    (scope : name = scopeParameterOf provider →
      settings.scope.getD (defaultScope provider) = other.scope.getD (defaultScope provider))
    (client : name = "client_id" → settings.clientId = other.clientId)
    (redirect : name = "redirect_uri" → settings.redirectUri = other.redirectUri)
    (state : name = "state" → page = otherPage) :
    UrlParts.valuesOf name ((ofProvider provider settings).query page).toList =
      UrlParts.valuesOf name ((ofProvider provider other).query otherPage).toList := by
  have each : ∀ {key : String} {first second : List String},
      (name = key → first = second) →
        (if key = name then first else []) = if key = name then second else [] := by
    intro key first second equal
    by_cases own : key = name
    · rw [if_pos own, if_pos own, equal own.symm]
    · rw [if_neg own, if_neg own]
  have scopes := each fun own => congrArg (fun value => [value]) (scope own)
  have clients := each fun own => congrArg (fun value => [value]) (client own)
  have redirects := each fun own => congrArg Option.toList (redirect own)
  have states := each fun own => congrArg (fun value => [value]) (state own)
  rw [valuesOf_query, valuesOf_query, scopes, clients, redirects, states]

theorem parameters_inj {first second : AuthorizeSettings} {page otherPage : String}
    (address : first.authorizeUrl = second.authorizeUrl)
    (told : first.parameters page = second.parameters otherPage) :
    first = second ∧ page = otherPage := by
  rcases first with ⟨firstUrl, firstName, firstScope, firstId, _ | firstUri⟩ <;>
    rcases second with ⟨secondUrl, secondName, secondScope, secondId, _ | secondUri⟩ <;>
    simp_all [parameters]

/-- The last question mark of a URL parts its address from its query. -/
theorem url_inj {provider otherProvider : Provider} {settings other : ProviderSettings}
    {page otherPage : String} :
    (ofProvider provider settings).url page = (ofProvider otherProvider other).url otherPage ↔
      ofProvider provider settings = ofProvider otherProvider other ∧ page = otherPage := by
  constructor
  · intro same
    have free : ∀ provider settings page,
        '?' ∉ ((ofProvider provider settings).query page).toList.reverse := by
      intro provider settings page found
      exact query_free provider settings page (by decide) (by decide) (List.mem_reverse.mp found)
    -- No query holds a question mark, so a URL that is read backwards begins with its query.
    have turned := congrArg (fun url => Text.cutAt '?' url.toList.reverse) same
    have cut : ∀ provider settings page,
        Text.cutAt '?' ((ofProvider provider settings).url page).toList.reverse =
          (((ofProvider provider settings).query page).toList.reverse,
            some (ofProvider provider settings).authorizeUrl.toList.reverse) := by
      intro provider settings page
      rw [url_eq, ← Text.cutAt_append_stop (free provider settings page)]
      simp
    simp only [cut, Prod.mk.injEq, List.reverse_inj, String.toList_inj, Option.some.injEq]
      at turned
    have told := congrArg (fun query => UrlParts.readQuery? query.toList) turned.1
    simp only [readQuery?_query, Option.some.injEq] at told
    exact parameters_inj turned.2 told
  · rintro ⟨same, rfl⟩
    rw [same]

/-- The parameters of an authorize request are what its settings say, each once and in order.

In front of them stands the address that is set, or else the provider's. They are read by parting
the query at every `&` and each part at its first `=`, and by decoding what is found. A parameter
is the same in two requests of a provider if the same is set for it: nothing that is set for
another one adds it, takes it away or changes it. There is always one page to return to. Different
requests have different URLs, and behind a plain address the parameters are those of the URL. -/
theorem url_tells_parameters (provider : Provider) (settings : ProviderSettings)
    (page : String) :
    let request := ofProvider provider settings
    let address := settings.authorizeUrl.getD (defaultUrl provider)
    let scopeOf := fun settings : ProviderSettings => settings.scope.getD (defaultScope provider)
    let query := (request.query page).toList
    request.url page = address ++ "?" ++ request.query page ∧
    UrlParts.readQuery? query =
      some ([(scopeParameterOf provider, scopeOf settings)] ++ [("client_id", settings.clientId)] ++
        (settings.redirectUri.map fun uri => ("redirect_uri", uri)).toList ++
        [("response_type", "code")] ++ [("state", page)]) ∧
    (∀ char ∈ query, Text.Percent.isUnreserved char = true ∨ char ∈ "%=&".toList) ∧
    UrlParts.valuesOf "state" query = [page] ∧
    (∀ other otherPage name,
      (name = scopeParameterOf provider → scopeOf settings = scopeOf other) →
      (name = "client_id" → settings.clientId = other.clientId) →
      (name = "redirect_uri" → settings.redirectUri = other.redirectUri) →
      (name = "state" → page = otherPage) →
      UrlParts.valuesOf name query =
        UrlParts.valuesOf name ((ofProvider provider other).query otherPage).toList) ∧
    (∀ otherProvider other otherPage,
      request.url page = (ofProvider otherProvider other).url otherPage ↔
        request = ofProvider otherProvider other ∧ page = otherPage) ∧
    ('#' ∉ address.toList → '?' ∉ address.toList →
      UrlParts.ofText (request.url page).toList =
        ⟨Text.splitWhere (· = '/') address.toList, some (UrlParts.parametersOf query), none⟩) := by
  intro request address scopeOf query
  refine ⟨rfl, ?_, query_chars provider settings page, ?_, ?_, fun _ _ _ => url_inj, ?_⟩
  · rw [readQuery?_query]
    exact congrArg some (parameters_eq provider settings page)
  · have apart : scopeParameterOf provider ≠ "state" := by
      cases provider <;> decide
    rw [valuesOf_query, if_neg apart]
    simp
  · intro other otherPage name scope client redirect state
    exact valuesOf_query_congr scope client redirect state
  · intro noFragment noQuery
    have plain : '#' ∉ query := query_free provider settings page (by decide) (by decide)
    have spelt : (request.url page).toList = address.toList ++ '?' :: query := by
      rw [url_eq]
      simp [request, address, query, ofProvider]
    rw [spelt, UrlParts.ofText_query noFragment noQuery plain]

/-- Settings that would each be a page to return to, or a fragment, if they were not encoded. -/
theorem url_tells_parameters_forged :
    let settings : ProviderSettings :=
      ⟨"a&state=/b", some "https://h/?x=1#&state=/c", none, some "=&state=é+"⟩
    let page := "/google.xhtml#&client_id=%62"
    let request := ofProvider .google settings
    request.url page = "https://accounts.google.com/o/oauth2/v2/auth?" ++
        "scope=%3D%26state%3D%C3%A9%2B&client_id=a%26state%3D%2Fb&" ++
        "redirect_uri=https%3A%2F%2Fh%2F%3Fx%3D1%23%26state%3D%2Fc&" ++
        "response_type=code&state=%2Fgoogle.xhtml%23%26client_id%3D%2562" ∧
      UrlParts.readQuery? (request.query page).toList =
        some [("scope", "=&state=é+"), ("client_id", "a&state=/b"),
          ("redirect_uri", "https://h/?x=1#&state=/c"), ("response_type", "code"),
          ("state", page)] ∧
      UrlParts.valuesOf "state" (request.query page).toList =
        UrlParts.valuesOf "state" ((ofProvider .google .unset).query page).toList ∧
      (UrlParts.ofText (request.url page).toList).parameters =
        some (UrlParts.parametersOf (request.query page).toList) ∧
      request.url page ≠ request.url "/google.xhtml" := by
  intro settings page request
  rcases url_tells_parameters .google settings page with
    ⟨-, told, -, -, alike, different, plain⟩
  refine ⟨by decide +kernel, told, ?_, ?_, ?_⟩
  · exact alike .unset page "state" (by decide) (by decide) (by decide) fun _ => rfl
  · rw [plain (by decide) (by decide)]
  · intro same
    have pages := ((different .google settings "/google.xhtml").mp same).2
    exact absurd pages (by decide)

end AuthorizeSettings

end PromptClient
